import ListKeeper.Proofs.Pipeline.Mirrors
import ListKeeper.Proofs.Store.Filled

namespace ListKeeper

namespace Program

variable {I : Interface} {α : Type}

/-- Steps one after the other can be grouped in any way. -/
instance : LawfulMonad (Program I) := by
  refine LawfulMonad.mk' _ (fun program => ?_) (fun _ _ => rfl) fun program next later => ?_
  · change program.bind .done = program
    induction program with
    | call request answered meanwhile answers else_ =>
      simp only [bind, answers, else_]
    | done | stalled | panic => rfl
  · change (program.bind next).bind later = program.bind fun value => (next value).bind later
    induction program with
    | call request answered meanwhile answers else_ =>
      simp only [bind, answers, else_]
    | done | stalled | panic => rfl

/-- The call that a program makes next. -/
def next? : Program I α → Option I.Call
  | .call request .. => some request
  | _ => none

end Program

/-- A rebuild on its way: what it works on, what is left of it, and the calls it has made. -/
structure Rebuild where
  backend : Backend
  rest : Job (Except ProjectionFault Nat)
  calls : List Call

namespace Rebuild

def start (batch : Nat) (backend : Backend) : Rebuild :=
  ⟨backend, Projection.indexAll batch, []⟩

inductive Step where
  /-- The rebuild makes its next call. -/
  | own (now : Timestamp)
  /-- Somebody else makes a call. -/
  | other (now : Timestamp) (call : Call)

def Step.isOwn : Step → Bool
  | .own _ => true
  | .other .. => false

def act (rebuild : Rebuild) : Step → Rebuild
  | .own now =>
    let (rest, backend) := rebuild.rest.step (Backend.treat now) rebuild.backend
    ⟨backend, rest, rebuild.calls ++ rebuild.rest.next?.toList⟩
  | .other now call => { rebuild with backend := (rebuild.backend.perform now call).2 }

def run (rebuild : Rebuild) (steps : List Step) : Rebuild :=
  steps.foldl act rebuild

/-- The rebuild after the first steps. -/
def moment (rebuild : Rebuild) (steps : List Step) (t : Nat) : Rebuild :=
  rebuild.run (steps.take t)

/-- How far a rebuild has come. -/
inductive Phase where
  /-- The next page is to be listed. -/
  | listing (after : Option ListId) (indexed : Nat)
  /-- Some documents of a page have been made, and some lists of it are left to be loaded. -/
  | loading (last : ListId) (full : Bool) (indexed : Nat) (made : List Document)
    (left : List ListId)
  | ended (total : Nat)

namespace Phase

/-- What is left to do. -/
def program (pageSize : Nat) : Phase → Projection Nat
  | listing after indexed => Projection.indexPages pageSize after indexed
  | loading last full indexed made left => do
    let later ← Projection.loadDocuments left
    Attempt.saveDocuments (made ++ later) .search
    if full then Projection.indexPages pageSize (some last) (indexed + (made ++ later).length)
    else pure (indexed + (made ++ later).length)
  | ended total => pure total

def call? (pageSize : Nat) : Phase → Option Call
  | listing after _ => some (.store (.listIds after pageSize))
  | loading _ _ _ _ (list :: _) => some (.store (.loadList list))
  | loading _ _ _ made [] => some (.saveDocuments made)
  | ended _ => none

/-- What the next call leads to. -/
def next (pageSize : Nat) (store : Store) : Phase → Phase
  | listing after indexed =>
    match (store.idsAfter after pageSize).getLast? with
    | none => ended indexed
    | some last =>
      loading last (decide (pageSize ≤ (store.idsAfter after pageSize).length)) indexed []
        (store.idsAfter after pageSize)
  | loading last full indexed made (list :: left) =>
    loading last full indexed (made ++ ((store.lists.get? list).map Document.ofList).toList) left
  | loading last full indexed made [] =>
    if full then listing (some last) (indexed + made.length) else ended (indexed + made.length)
  | ended total => ended total

variable {pageSize : Nat} {now : Timestamp} {backend : Backend} {α : Type}

theorem step_store {call : StoreCall} {result : call.Result}
    (answer : (backend.store.perform now call).1 = .ok result) (next : call.Result → Projection α) :
    Program.step (Backend.treat now) (Projection.store call >>= next : Projection α) backend =
      (next result, { backend with store := (backend.store.perform now call).2 }) := by
  have answered : Program.step (Backend.treat now) (Projection.store call >>= next : Projection α)
      backend = (ExceptT.bindCont next ((backend.store.perform now call).1.mapError .storage),
        { backend with store := (backend.store.perform now call).2 }) := rfl
  rw [answered, answer]
  rfl

theorem next?_program (phase : Phase) :
    Program.next? (phase.program pageSize) = phase.call? pageSize := by
  cases phase with
  | ended total => rfl
  | listing after indexed =>
    rw [program, Projection.indexPages]
    rfl
  | loading last full indexed made left =>
    cases left with
    | nil =>
      simp only [program, Projection.loadDocuments, pure_bind, List.append_nil]
      rfl
    | cons list left => rfl

/-- The call of a phase leads to the next phase. -/
theorem step_program (phase : Phase) :
    Program.step (Backend.treat now) (phase.program pageSize) backend =
      ((phase.next pageSize backend.store).program pageSize,
        (phase.call? pageSize).elim backend fun call => (backend.perform now call).2) := by
  cases phase with
  | ended total => rfl
  | listing after indexed =>
    simp only [program, next]
    rw [Projection.indexPages, step_store rfl]
    cases final : (backend.store.idsAfter after pageSize).getLast? with
    | none => rfl
    | some last =>
      have beyond := Handler.isBeyond_of_mem_idsAfter (List.mem_of_getLast? final)
      simp only [beyond, ↓reduceDIte, List.nil_append]
      by_cases short : (backend.store.idsAfter after pageSize).length < pageSize
      · simp only [short, ↓reduceIte, decide_eq_false (Nat.not_le.mpr short)]
        rfl
      · simp only [short, ↓reduceIte, decide_eq_true (Nat.not_lt.mp short)]
        rfl
  | loading last full indexed made left =>
    cases left with
    | nil =>
      simp only [program, next, Projection.loadDocuments, pure_bind, List.append_nil]
      cases full <;> rfl
    | cons list left =>
      simp only [program, next, Projection.loadDocuments, bind_assoc, pure_bind]
      rw [step_store rfl]
      simp only [← List.append_assoc]
      rfl

/-- A bound on the calls that are left to make. A page is listed, loaded and stored. -/
def effort (pageSize : Nat) : Phase → Nat
  | listing after _ => (pageSize + 2) * Projection.room after + 1
  | loading last full _ _ left =>
    left.length + 1 + if full then (pageSize + 2) * Projection.room (some last) + 1 else 0
  | ended _ => 0

theorem length_idsAfter_le {store : Store} {after : Option ListId} :
    (store.idsAfter after pageSize).length ≤ pageSize := by
  rw [Store.idsAfter, List.length_take]
  exact Nat.min_le_left ..

theorem effort_next_lt (phase : Phase) (pageSize : Nat) (store : Store) :
    (phase.next pageSize store).effort pageSize < phase.effort pageSize ∨
      ∃ total, phase = ended total := by
  cases phase with
  | ended total => exact Or.inr ⟨total, rfl⟩
  | listing after indexed =>
    left
    simp only [next]
    cases final : (store.idsAfter after pageSize).getLast? with
    | none => exact Nat.succ_pos _
    | some last =>
      have size : (store.idsAfter after pageSize).length ≤ pageSize := length_idsAfter_le
      have less := Projection.room_lt_of_isBeyond
        (Handler.isBeyond_of_mem_idsAfter (List.mem_of_getLast? final))
      have paid : (pageSize + 2) * (Projection.room (some last) + 1) ≤
          (pageSize + 2) * Projection.room after := Nat.mul_le_mul_left _ less
      rw [Nat.mul_add] at paid
      simp only [effort]
      split <;> omega
  | loading last full indexed made left =>
    left
    cases left with
    | nil =>
      cases full with
      | false => exact Nat.succ_pos _
      | true =>
        simp only [next, effort, ↓reduceIte, List.length_nil]
        omega
    | cons list left =>
      simp only [next, effort, List.length_cons]
      omega

theorem eq_ended {phase : Phase} (nothing : phase.effort pageSize = 0) :
    ∃ total, phase = ended total := by
  cases phase with
  | ended total => exact ⟨total, rfl⟩
  | listing => cases nothing
  | loading =>
    simp only [effort] at nothing
    omega

/-- A rebuild whose program is done has ended. -/
theorem eq_ended_of_done {phase : Phase} {total : Nat}
    (done : phase.program pageSize = (Program.done (.ok total) : Job (Except ProjectionFault Nat))) :
    phase = ended total := by
  have asked : Program.next? (phase.program pageSize) = phase.call? pageSize :=
    phase.next?_program
  rw [done] at asked
  cases phase with
  | ended other =>
    cases done
    rfl
  | listing => cases asked
  | loading last full indexed made left => cases left <;> cases asked

/-- The phase and the backend after a step. -/
def follow (pageSize : Nat) (place : Phase × Backend) : Step → Phase × Backend
  | .own now =>
    (place.1.next pageSize place.2.store,
      (place.1.call? pageSize).elim place.2 fun call => (place.2.perform now call).2)
  | .other now call => (place.1, (place.2.perform now call).2)

end Phase

variable {rebuild : Rebuild} {phase : Phase} {pageSize : Nat} {now : Timestamp} {call : Call}

theorem act_own (here : rebuild.rest = phase.program pageSize) :
    rebuild.act (.own now) =
      ⟨(phase.call? pageSize).elim rebuild.backend fun call => (rebuild.backend.perform now call).2,
        (phase.next pageSize rebuild.backend.store).program pageSize,
        rebuild.calls ++ (phase.call? pageSize).toList⟩ := by
  simp only [act, here]
  rw [phase.step_program, phase.next?_program]

/-- A rebuild goes from phase to phase. -/
theorem run_follows (here : rebuild.rest = phase.program pageSize) (steps : List Step) :
    (rebuild.run steps).rest =
        (steps.foldl (Phase.follow pageSize) (phase, rebuild.backend)).1.program pageSize ∧
      (rebuild.run steps).backend =
        (steps.foldl (Phase.follow pageSize) (phase, rebuild.backend)).2 := by
  induction steps generalizing rebuild phase with
  | nil => exact ⟨here, rfl⟩
  | cons step rest ih =>
    cases step with
    | other now call =>
      have still : (rebuild.act (.other now call)).rest = phase.program pageSize := here
      exact ih still
    | own now =>
      have stepped : rebuild.act (.own now) = _ := act_own here
      obtain ⟨left, backend⟩ := ih (congrArg Rebuild.rest stepped)
      rw [congrArg Rebuild.backend stepped] at left backend
      exact ⟨left, backend⟩

/-- Its own calls take a rebuild on, and those of others do not hold it up. -/
theorem effort_follow (pageSize : Nat) (steps : List Step) (place : Phase × Backend) :
    (steps.foldl (Phase.follow pageSize) place).1.effort pageSize + steps.countP Step.isOwn ≤
        place.1.effort pageSize ∨
      ∃ total, (steps.foldl (Phase.follow pageSize) place).1 = .ended total := by
  induction steps generalizing place with
  | nil => exact Or.inl (Nat.le_refl _)
  | cons step rest ih =>
    cases step with
    | other now call => exact ih (place.1, (place.2.perform now call).2)
    | own now =>
      rw [List.foldl_cons]
      rcases ih (Phase.follow pageSize place (.own now)) with less | ended
      · rcases place.1.effort_next_lt pageSize place.2.store with paid | ⟨total, ended⟩
        · have paid' : (Phase.follow pageSize place (.own now)).1.effort pageSize <
            place.1.effort pageSize := paid
          left
          rw [List.countP_cons_of_pos rfl]
          omega
        · right
          have nothing : (Phase.follow pageSize place (.own now)).1.effort pageSize = 0 := by
            rw [Phase.follow, ended]
            rfl
          exact Phase.eq_ended (Nat.eq_zero_of_add_eq_zero_right (Nat.le_zero.mp (nothing ▸ less)))
      · exact Or.inr ended

/-- A rebuild that has made this many calls has come to its end. -/
theorem ended_of_enough (batch : Nat) (backend : Backend) (steps : List Step)
    (enough : (Phase.listing none 0).effort (max batch 1) ≤ steps.countP Step.isOwn) :
    ∃ total, ((start batch backend).run steps).rest = .done (.ok total) := by
  have begins : (start batch backend).rest = (Phase.listing none 0).program (max batch 1) := rfl
  rw [(run_follows begins steps).1]
  rcases effort_follow (max batch 1) steps (.listing none 0, backend) with few | ⟨total, ended⟩
  · have nothing : (steps.foldl (Phase.follow (max batch 1))
        (.listing none 0, backend)).1.effort (max batch 1) = 0 := by
      dsimp only at few
      omega
    obtain ⟨total, ended⟩ := Phase.eq_ended nothing
    exact ⟨total, congrArg _ ended⟩
  · exact ⟨total, congrArg _ ended⟩

end Rebuild

end ListKeeper
