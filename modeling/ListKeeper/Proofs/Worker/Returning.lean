import ListKeeper.Proofs.Pipeline.Handling

namespace ListKeeper

namespace Program

variable {I : Interface} {σ α β : Type} {treat : Surroundings I σ}

/-- A program that comes to its end, whatever others do to the state between its calls. -/
inductive Returns (treat : Surroundings I σ) : Program I α → Prop where
  | done (value : α) : Returns treat (.done value)
  | panic (reason : PanicReason) : Returns treat (.panic reason)
  | call {request : I.Call} {next : I.Answer request → Program I α} {meanwhile : Program I α}
      (prompt : ∀ state, (treat request state).1 ≠ .notYet)
      (answered : ∀ state value, (treat request state).1 = .answer value → Returns treat (next value))
      (unanswered : ∀ state, (treat request state).1 = .never → Returns treat meanwhile) :
      Returns treat (.call request next meanwhile)

/-- What a call leads to that is not put off. -/
theorem step_call_or {request : I.Call} {next : I.Answer request → Program I α}
    {meanwhile : Program I α} {state : σ} (prompt : (treat request state).1 ≠ .notYet) :
    (∃ value, (treat request state).1 = .answer value ∧
        (Program.step treat (.call request next meanwhile) state).1 = next value) ∨
      ((treat request state).1 = .never ∧
        (Program.step treat (.call request next meanwhile) state).1 = meanwhile) ∨
      ∃ reason, (Program.step treat (.call request next meanwhile) state).1 = .panic reason := by
  simp only [Program.step]
  cases came : treat request state with
  | mk reply after =>
    rw [came] at prompt
    cases reply with
    | answer value => exact Or.inl ⟨value, rfl, rfl⟩
    | notYet => exact absurd rfl prompt
    | never => exact Or.inr (Or.inl ⟨rfl, rfl⟩)
    | panics reason => exact Or.inr (Or.inr ⟨reason, rfl⟩)

theorem Returns.step {program : Program I α} (returns : program.Returns treat) (state : σ) :
    (program.step treat state).1.Returns treat := by
  cases returns with
  | done value => exact .done value
  | panic reason => exact .panic reason
  | call prompt answered unanswered =>
    rcases step_call_or (prompt state) with ⟨value, came, later⟩ | ⟨came, later⟩ | ⟨reason, later⟩
    · rw [later]
      exact answered state value came
    · rw [later]
      exact unanswered state came
    · rw [later]
      exact .panic reason

/-- Induction on the steps that are left. -/
theorem Returns.step_induction {motive : (program : Program I α) → program.Returns treat → Prop}
    (done : ∀ value, motive (.done value) (.done value))
    (panic : ∀ reason, motive (.panic reason) (.panic reason))
    (call : ∀ program (returns : program.Returns treat),
      (∀ state, motive (program.step treat state).1 (returns.step state)) → motive program returns)
    {program : Program I α} (returns : program.Returns treat) : motive program returns := by
  induction returns with
  | done value => exact done value
  | panic reason => exact panic reason
  | @call request next meanwhile prompt answers never answered unanswered =>
    refine call _ (.call prompt answers never) fun state => ?_
    generalize Returns.step (.call prompt answers never) state = still
    revert still
    rcases step_call_or (prompt state) with ⟨value, came, later⟩ | ⟨came, later⟩ | ⟨reason, later⟩
    · rw [later]
      exact fun _ => answered state value came
    · rw [later]
      exact fun _ => unanswered state came
    · rw [later]
      exact fun _ => panic reason

theorem Returns.bind {program : Program I α} {next : α → Program I β}
    (first : program.Returns treat) (second : ∀ value, (next value).Returns treat) :
    (program.bind next).Returns treat := by
  induction first with
  | done value => exact second value
  | panic reason => exact .panic reason
  | call prompt _ _ answered unanswered => exact .call prompt answered unanswered

end Program

open Program

variable {α β ε : Type} {now : Timestamp}

theorem Program.Returns.andThen {attempt : Attempt ε α} {next : α → Attempt ε β}
    (first : Returns (Backend.treat now) attempt)
    (second : ∀ value, Returns (Backend.treat now) (next value)) :
    Returns (Backend.treat now) (attempt >>= next : Attempt ε β) := by
  refine Program.Returns.bind first fun value => ?_
  cases value with
  | ok value => exact second value
  | error fault => exact .done _

/-- On a backend that answers every call, a call is followed by what is done with an answer that a
backend gives. -/
theorem returns_call {call : Call} {next : call.Answer → Job α} {meanwhile : Job α}
    (later : ∀ backend : Backend, Returns (Backend.treat now) (next (backend.perform now call).1)) :
    Returns (Backend.treat now) (.call call next meanwhile : Job α) := by
  refine .call (fun backend => nofun) (fun backend value came => ?_) (fun backend => nofun)
  have same : (backend.perform now call).1 = value := Reply.answer.inj came
  exact same ▸ later backend

theorem returns_store {call : StoreCall} {fault : StorageFault → ε} :
    Returns (Backend.treat now) (Attempt.store call fault) :=
  returns_call fun _ => .done _

/-- What comes after a call on the store comes with a result that a store gives. -/
theorem returns_storing {call : StoreCall} {fault : StorageFault → ε}
    {next : call.Result → Attempt ε β}
    (later : ∀ (store : Store) (result : call.Result), (store.perform now call).1 = .ok result →
      Returns (Backend.treat now) (next result)) :
    Returns (Backend.treat now) (Attempt.store call fault >>= next : Attempt ε β) := by
  refine returns_call fun backend => ?_
  change Returns (Backend.treat now)
    (ExceptT.bindCont next ((backend.store.perform now call).1.mapError fault))
  have later := later backend.store
  cases result : (backend.store.perform now call).1 with
  | ok result' => exact later result' result
  | error problem => exact .done _

theorem returns_saveDocuments {documents : List Document} {fault : SearchFault → ε} :
    Returns (Backend.treat now) (Attempt.saveDocuments documents fault) :=
  returns_call fun _ => .done _

theorem returns_deleteDocument {objectId : String} {fault : SearchFault → ε} :
    Returns (Backend.treat now) (Attempt.deleteDocument objectId fault) :=
  returns_call fun _ => .done _

namespace Handler

theorem returns_listOf (envelope : Envelope) :
    Returns (Backend.treat now) (listOf envelope) := by
  unfold listOf
  split <;> exact .done _

theorem returns_recount (list : ListId) :
    Returns (Backend.treat now) (Projection.recount list) :=
  returns_store.andThen fun _ => returns_store.andThen fun _ => .done _

theorem returns_indexList (list : ListId) :
    Returns (Backend.treat now) (Projection.indexList list) := by
  refine returns_store.andThen fun found => ?_
  cases found with
  | some list => exact returns_saveDocuments
  | none => exact .done _

theorem returns_loadDocuments (lists : List ListId) :
    Returns (Backend.treat now) (Projection.loadDocuments lists) := by
  induction lists with
  | nil => exact .done _
  | cons list rest ih => exact returns_store.andThen fun _ => ih.andThen fun _ => .done _

/-- A page that a store gives is never behind the one before. -/
theorem returns_indexPages (pageSize : Nat) (after : Option ListId) (indexed : Nat) :
    Returns (Backend.treat now) (Projection.indexPages pageSize after indexed) := by
  induction after, indexed using Projection.indexPages.induct with
  | case1 after indexed ih =>
    rw [Projection.indexPages]
    refine returns_storing fun store ids listed => ?_
    obtain rfl : store.idsAfter after pageSize = ids := Except.ok.inj listed
    cases final : (store.idsAfter after pageSize).getLast? with
    | none => exact .done _
    | some last =>
      have beyond := isBeyond_of_mem_idsAfter (List.mem_of_getLast? final)
      refine (returns_loadDocuments _).andThen fun documents => ?_
      refine returns_saveDocuments.andThen fun _ => ?_
      simp only [beyond, ↓reduceDIte]
      split
      · exact .done _
      · exact ih last documents beyond

/-- The handlers of the pipeline always return. -/
theorem returns_handlers {batch : Nat} {handler : Handler Call.interface} {topics : List Topic}
    (member : (handler, topics) ∈ Pipeline.handlers batch) (envelope : Envelope) :
    (handler.handle envelope).Returns (Backend.treat now) := by
  simp only [Pipeline.handlers, List.mem_cons, Prod.mk.injEq, List.not_mem_nil, or_false] at member
  rcases member with ⟨rfl, _⟩ | ⟨rfl, _⟩ | ⟨rfl, _⟩ | ⟨rfl, _⟩
  · exact (returns_listOf envelope).andThen fun list => (returns_recount list).andThen fun _ => .done _
  · exact (returns_listOf envelope).andThen returns_indexList
  · exact (returns_listOf envelope).andThen fun list => returns_deleteDocument
  · simp only [searchReindex]
    split
    · exact .done _
    · exact (returns_indexPages (max batch 1) none 0).andThen fun _ => .done _

end Handler

end ListKeeper
