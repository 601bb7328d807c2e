import ListKeeper.Proofs.Rebuild.Once

namespace ListKeeper

/-- Which calls fail, and how, by the number of calls made before. -/
structure Outages where
  store : Nat → Option StorageFault
  search : Nat → Option SearchFault

namespace Outages

variable (outages : Outages) (clock : Nat → Timestamp)

/-- What a call is answered that fails. -/
def answer? (count : Nat) : (call : Call) → Option call.Answer
  | .store _ => (outages.store count).map .error
  | .saveDocuments _ => (outages.search count).map .error
  | .deleteDocument _ => (outages.search count).map .error
  | _ => none

/-- The fault of a call, as a projection sees it. -/
def fault? (count : Nat) : Call → Option ProjectionFault
  | .store _ => (outages.store count).map .storage
  | .saveDocuments _ => (outages.search count).map .search
  | .deleteDocument _ => (outages.search count).map .search
  | _ => none

/-- No call of these fails. -/
def Spares (count : Nat) : List Call → Prop
  | [] => True
  | call :: later => outages.fault? count call = none ∧ Spares (count + 1) later

/-- Surroundings that count the calls. A call that fails changes nothing. -/
def treat : Program.Surroundings Call.interface (Backend × Nat) := fun call (backend, count) =>
  match outages.answer? count call with
  | some answer => (.answer answer, backend, count + 1)
  | none =>
    let (answer, backend) := backend.perform (clock count) call
    (.answer answer, backend, count + 1)

/-- A rebuild that makes all its calls with nothing else going on. -/
def rebuild (batch : Nat) (backend : Backend) :
    Program.Progress Call.interface (Backend × Nat) (Except ProjectionFault Nat) :=
  Program.advance (outages.treat clock) (Projection.indexAll batch) (backend, 0)

variable {outages clock} {count : Nat} {call : Call} {backend : Backend}

theorem answer?_eq_none_iff :
    outages.answer? count call = none ↔ outages.fault? count call = none := by
  cases call <;> simp [answer?, fault?]

theorem spares_append {before later : List Call} :
    outages.Spares count (before ++ later) ↔
      outages.Spares count before ∧ outages.Spares (count + before.length) later := by
  induction before generalizing count with
  | nil => simp [Spares]
  | cons call rest ih =>
    have shifted : count + 1 + rest.length = count + (rest.length + 1) := by omega
    simp only [List.cons_append, Spares, ih, List.length_cons, shifted, and_assoc]

end Outages

namespace Rebuild

variable {outages : Outages} {clock : Nat → Timestamp} {count pageSize : Nat} {phase : Phase}
  {call : Call} {backend : Backend} {fault : ProjectionFault} {α : Type}

/-- A call that does not fail leads to the next phase. -/
theorem advance_spared (asked : phase.call? pageSize = some call)
    (spared : outages.fault? count call = none) :
    Program.advance (outages.treat clock) (phase.program pageSize) (backend, count) =
      let later := Program.advance (outages.treat clock)
        ((phase.next pageSize backend.store).program pageSize)
        ((backend.perform (clock count) call).2, count + 1)
      { later with calls := call :: later.calls } := by
  have first : Program.next? (phase.program pageSize) = some call := phase.next?_program.trans asked
  have stepped : Program.step (Backend.treat (clock count)) (phase.program pageSize) backend = _ :=
    phase.step_program
  rw [asked] at stepped
  generalize phase.program pageSize = program at first stepped ⊢
  cases program with
  | done | stalled | panic => cases first
  | call request next meanwhile =>
    obtain rfl := Option.some.inj first
    have answered := Outages.answer?_eq_none_iff.mpr spared
    have reached : next (backend.perform (clock count) request).1 = _ := congrArg Prod.fst stepped
    simp only [Program.advance, Outages.treat, answered]
    rw [reached]

theorem advance_failing {answer : call.Answer} {next : call.Answer → Job α} {meanwhile : Job α}
    {value : α} (given : outages.answer? count call = some answer)
    (stops : next answer = .done value) :
    Program.advance (outages.treat clock) (.call call next meanwhile : Job α) (backend, count) =
      ⟨.done value, [call], (backend, count + 1)⟩ := by
  simp only [Program.advance, Outages.treat, given]
  rw [stops]
  rfl

theorem advance_store_fault {asked : StoreCall} {next : asked.Result → Projection α}
    (hit : outages.fault? count (.store asked) = some fault) :
    Program.advance (outages.treat clock) (Projection.store asked >>= next : Projection α)
      (backend, count) = ⟨.done (.error fault), [.store asked], (backend, count + 1)⟩ := by
  obtain ⟨cause, fails, rfl⟩ := Option.map_eq_some_iff.mp hit
  have given : outages.answer? count (.store asked) = some (.error cause) :=
    congrArg (Option.map _) fails
  exact advance_failing given rfl

theorem advance_search_fault {documents : List Document} {next : Unit → Projection α}
    (hit : outages.fault? count (.saveDocuments documents) = some fault) :
    Program.advance (outages.treat clock)
      (Attempt.saveDocuments documents .search >>= next : Projection α) (backend, count) =
        ⟨.done (.error fault), [.saveDocuments documents], (backend, count + 1)⟩ := by
  obtain ⟨cause, fails, rfl⟩ := Option.map_eq_some_iff.mp hit
  have given : outages.answer? count (.saveDocuments documents) = some (.error cause) :=
    congrArg (Option.map _) fails
  exact advance_failing given rfl

/-- A call that fails ends a rebuild. -/
theorem advance_fault (asked : phase.call? pageSize = some call)
    (hit : outages.fault? count call = some fault) :
    Program.advance (outages.treat clock) (phase.program pageSize) (backend, count) =
      ⟨.done (.error fault), [call], (backend, count + 1)⟩ := by
  match phase with
  | .ended total => cases asked
  | .listing after indexed =>
    obtain rfl := Option.some.inj asked
    rw [Phase.program, Projection.indexPages]
    exact advance_store_fault hit
  | .loading last full indexed done (list :: left) =>
    obtain rfl := Option.some.inj asked
    simp only [Phase.program, Projection.loadDocuments, bind_assoc]
    exact advance_store_fault hit
  | .loading last full indexed done [] =>
    obtain rfl := Option.some.inj asked
    simp only [Phase.program, Projection.loadDocuments, pure_bind, List.append_nil]
    exact advance_search_fault hit

/-- The documents of all lists, lowest number first. -/
def documents (store : Store) : List Document :=
  store.lists.values.map Document.ofList

/-- The numbers behind a bound. -/
def beyond (store : Store) (after : Option ListId) : List ListId :=
  store.lists.keys.filter (Projection.isBeyond after)

variable {store : Store}

theorem idsAfter_eq_take (store : Store) (after : Option ListId) (limit : Nat) :
    store.idsAfter after limit = (beyond store after).take limit := by
  cases after <;> rfl

theorem beyond_none (store : Store) : beyond store none = store.lists.keys :=
  List.filter_eq_self.mpr fun _ _ => rfl

/-- Behind the last number of an ascending listing is the rest of the numbers. -/
theorem filter_isBeyond_eq_drop {ids : List ListId} {last : ListId} {n : Nat}
    (ascending : ids.Pairwise fun a b => a.number < b.number)
    (final : (ids.take n).getLast? = some last) :
    ids.filter (Projection.isBeyond (some last)) = ids.drop n := by
  have parts := ascending
  rw [← List.take_append_drop n ids, List.pairwise_append] at parts
  obtain ⟨first, -, apart⟩ := parts
  have none_before : (ids.take n).filter (Projection.isBeyond (some last)) = [] := by
    refine List.filter_eq_nil_iff.mpr fun id member above => ?_
    exact Int32.lt_irrefl (number_lt_of_last first final above member)
  have all_behind : (ids.drop n).filter (Projection.isBeyond (some last)) = ids.drop n :=
    List.filter_eq_self.mpr fun id member =>
      decide_eq_true (apart last (List.mem_of_getLast? final) id member)
  calc ids.filter (Projection.isBeyond (some last))
      = (ids.take n ++ ids.drop n).filter (Projection.isBeyond (some last)) := by
        rw [List.take_append_drop]
    _ = ids.drop n := by rw [List.filter_append, none_before, all_behind, List.nil_append]

theorem documentsOf_entries {part : List (ListId × ItemList)}
    (stored : ∀ entry ∈ part, entry ∈ store.lists.entries) :
    Handler.documentsOf store (part.map Prod.fst) = (part.map Prod.snd).map Document.ofList := by
  induction part with
  | nil => rfl
  | cons entry rest ih =>
    have there : store.lists.get? entry.1 = some entry.2 :=
      Table.get?_eq_some.mpr (stored entry (List.mem_cons_self ..))
    have later := ih fun other member => stored other (List.mem_cons_of_mem _ member)
    rw [Handler.documentsOf] at later ⊢
    rw [List.map_cons, List.flatMap_cons, later, there]
    rfl

theorem documents_eq (store : Store) :
    documents store = Handler.documentsOf store store.lists.keys :=
  (documentsOf_entries fun _ member => member).symm

/-- The documents of a page. -/
theorem documentsOf_page (store : Store) (n pageSize : Nat) :
    Handler.documentsOf store ((store.lists.keys.drop n).take pageSize) =
      ((documents store).drop n).take pageSize := by
  have stored (entry) (member : entry ∈ (store.lists.entries.drop n).take pageSize) :
      entry ∈ store.lists.entries := List.mem_of_mem_drop (List.mem_of_mem_take member)
  simpa only [documents, Table.keys, Table.values, List.map_drop, List.map_take] using
    documentsOf_entries stored

/-- What is ahead of a phase when the first `n` lists are done. -/
def Phase.Ahead (store : Store) (pageSize n : Nat) : Phase → Prop
  | listing after _ => beyond store after = store.lists.keys.drop n
  | loading last full _ made left =>
    made ++ Handler.documentsOf store left = ((documents store).drop n).take pageSize ∧
      beyond store (some last) = store.lists.keys.drop (n + pageSize) ∧
      (full = false → store.lists.size ≤ n + pageSize)
  | ended _ => store.lists.size ≤ n

/-- Every push so far has been a page, and the pages are the first lists. -/
structure Course (store : Store) (pageSize : Nat) (batches : List (List Document)) (phase : Phase) :
    Prop where
  pushed : batches.flatten = (documents store).take (batches.length * pageSize)
  ahead : phase.Ahead store pageSize (batches.length * pageSize)
  counted : phase.indexed = batches.flatten.length

variable {batches : List (List Document)}

theorem Phase.Ahead.listed {after : Option ListId} {indexed n : Nat} (positive : 0 < pageSize)
    (ahead : (Phase.listing after indexed).Ahead store pageSize n) :
    ((Phase.listing after indexed).next pageSize store).Ahead store pageSize n := by
  have page : store.idsAfter after pageSize = (store.lists.keys.drop n).take pageSize := by
    rw [idsAfter_eq_take, ahead]
  simp only [Phase.next]
  rw [page]
  have size : store.lists.keys.length = store.lists.size := List.length_map ..
  cases final : ((store.lists.keys.drop n).take pageSize).getLast? with
  | none =>
    have empty := congrArg List.length (List.getLast?_eq_none_iff.mp final)
    rw [List.length_take, List.length_drop, List.length_nil] at empty
    simp only [Phase.Ahead]
    omega
  | some last =>
    have upTo : (store.lists.keys.take (n + pageSize)).getLast? = some last := by
      rw [List.take_add, List.getLast?_append, final]
      rfl
    refine ⟨documentsOf_page store n pageSize, ?_, fun short => ?_⟩
    · exact filter_isBeyond_eq_drop (Handler.pairwise_keys store) upTo
    · rw [decide_eq_false_iff_not, List.length_take, List.length_drop] at short
      omega

theorem Course.next (course : Course store pageSize batches phase) (positive : 0 < pageSize) :
    Course store pageSize (batches ++ ((phase.call? pageSize).bind Call.documents?).toList)
      (phase.next pageSize store) := by
  obtain ⟨pushed, ahead, counted⟩ := course
  match phase with
  | .ended total => exact (List.append_nil batches).symm ▸ ⟨pushed, ahead, counted⟩
  | .listing after indexed =>
    refine (List.append_nil batches).symm ▸ ⟨pushed, ahead.listed positive, ?_⟩
    rw [← counted, Phase.next]
    split <;> rfl
  | .loading last full indexed made (list :: left) =>
    obtain ⟨page, behind, short⟩ := ahead
    refine (List.append_nil batches).symm ▸ ⟨pushed, ⟨?_, behind, short⟩, counted⟩
    rw [← page, List.append_assoc]
    rfl
  | .loading last full indexed made [] =>
    obtain ⟨page, behind, short⟩ := ahead
    have one_more :
        (batches ++ [made]).length * pageSize = batches.length * pageSize + pageSize := by
      rw [List.length_append, List.length_singleton, Nat.succ_mul]
    have flattened : (batches ++ [made]).flatten = batches.flatten ++ made := by simp
    have made_page : made = ((documents store).drop (batches.length * pageSize)).take pageSize :=
      (List.append_nil made).symm.trans page
    have pushed' : (batches ++ [made]).flatten =
        (documents store).take ((batches ++ [made]).length * pageSize) := by
      rw [flattened, pushed, one_more, List.take_add, ← made_page]
    have counted' : indexed + made.length = (batches ++ [made]).flatten.length := by
      rw [flattened, List.length_append, ← counted]
      rfl
    cases full with
    | false => exact ⟨pushed', one_more ▸ short rfl, counted'⟩
    | true => exact ⟨pushed', one_more ▸ behind, counted'⟩

/-- The calls of a rebuild do nothing but push documents. -/
theorem perform_call? {now : Timestamp} (asked : phase.call? pageSize = some call) :
    (backend.perform now call).2 =
      { backend with index := backend.index.save call.documents?.toList.flatten } := by
  match phase with
  | .ended total => cases asked
  | .listing after indexed =>
    obtain rfl := Option.some.inj asked
    rfl
  | .loading last full indexed made (list :: left) =>
    obtain rfl := Option.some.inj asked
    rfl
  | .loading last full indexed made [] =>
    obtain rfl := Option.some.inj asked
    simp [Backend.perform, Call.documents?]

theorem eq_ended_of_call? (nothing : phase.call? pageSize = none) :
    ∃ total, phase = .ended total := by
  match phase with
  | .ended total => exact ⟨total, rfl⟩
  | .listing .. | .loading _ _ _ _ (_ :: _) | .loading _ _ _ _ [] => cases nothing

/-- How a rebuild ends that made these calls without a fault: it is done, or its next call fails. -/
def Ends (outages : Outages) (count : Nat) (before : List Call) (stop : Phase)
    (progress : Program.Progress Call.interface (Backend × Nat) (Except ProjectionFault Nat)) :
    Prop :=
  (∃ total, stop = .ended total ∧ progress.calls = before ∧ progress.rest = .done (.ok total)) ∨
    ∃ call fault, outages.fault? (count + before.length) call = some fault ∧
      progress.calls = before ++ [call] ∧ progress.rest = .done (.error fault)

theorem Ends.cons {before : List Call} {stop : Phase}
    {progress : Program.Progress Call.interface (Backend × Nat) (Except ProjectionFault Nat)}
    (ends : Ends outages (count + 1) before stop progress) (call : Call) :
    Ends outages count (call :: before) stop
      { progress with calls := call :: progress.calls } := by
  rcases ends with ⟨total, ended, calls, rest⟩ | ⟨last, fault, hit, calls, rest⟩
  · exact Or.inl ⟨total, ended, congrArg (call :: ·) calls, rest⟩
  · have shifted : count + 1 + before.length = count + (call :: before).length := by
      rw [List.length_cons]
      omega
    exact Or.inr ⟨last, fault, shifted ▸ hit, congrArg (call :: ·) calls, rest⟩

theorem filterMap_documents?_cons (call : Call) (later : List Call) :
    (call :: later).filterMap Call.documents? =
      call.documents?.toList ++ later.filterMap Call.documents? := by
  cases pushed : call.documents? <;> simp [pushed]

/-- A rebuild goes on along its course until it ends. -/
theorem Course.run (course : Course store pageSize batches phase) (same : backend.store = store)
    (positive : 0 < pageSize) (outages : Outages) (clock : Nat → Timestamp) (count : Nat) :
    ∃ before stop,
      Course store pageSize (batches ++ before.filterMap Call.documents?) stop ∧
      outages.Spares count before ∧
      (Program.advance (outages.treat clock) (phase.program pageSize) (backend, count)).state.1 =
        { backend with
          index := backend.index.save (before.filterMap Call.documents?).flatten } ∧
      Ends outages count before stop
        (Program.advance (outages.treat clock) (phase.program pageSize) (backend, count)) := by
  -- Each call leaves fewer to be made, and one that does not fail keeps the rebuild on its course.
  induction cost : phase.effort pageSize using Nat.strongRecOn
    generalizing phase batches backend count with
  | ind left ih =>
    cases asked : phase.call? pageSize with
    | none =>
      obtain ⟨total, rfl⟩ := eq_ended_of_call? asked
      exact ⟨[], .ended total, (List.append_nil batches).symm ▸ course, trivial, rfl,
        Or.inl ⟨total, rfl, rfl, rfl⟩⟩
    | some call =>
      cases hit : outages.fault? count call with
      | some fault =>
        rw [advance_fault asked hit]
        exact ⟨[], phase, (List.append_nil batches).symm ▸ course, trivial, rfl,
          Or.inr ⟨call, fault, hit, rfl, rfl⟩⟩
      | none =>
        subst same
        have less : (phase.next pageSize backend.store).effort pageSize < left := by
          rcases phase.effort_next_lt pageSize backend.store with less | ⟨total, rfl⟩
          · exact cost ▸ less
          · cases asked
        have onward := course.next positive
        rw [asked] at onward
        rw [advance_spared asked hit, perform_call? asked]
        generalize reached : ({ backend with
          index := backend.index.save call.documents?.toList.flatten } : Backend) = after
        have kept : after.store = backend.store := reached ▸ rfl
        obtain ⟨before, stop, arrived, spared, state, ends⟩ :=
          ih _ less onward kept (count + 1) rfl
        subst reached
        refine ⟨call :: before, stop, ?_, ⟨hit, spared⟩, ?_, ends.cons call⟩
        · rw [filterMap_documents?_cons, ← List.append_assoc]
          exact arrived
        · rw [filterMap_documents?_cons, List.flatten_append, ← Handler.save_append]
          exact state

theorem course_start (store : Store) (pageSize : Nat) :
    Course store pageSize [] (.listing none 0) := by
  refine ⟨?_, ?_, rfl⟩
  · rw [List.length_nil, Nat.zero_mul]
    rfl
  · rw [List.length_nil, Nat.zero_mul]
    exact beyond_none store

/-- When all documents are pushed, each list's entry is its document, and no other entry changes. -/
theorem document?_save_documents (keyed : store.Keyed) (index : Index) :
    (∀ k list, store.lists.get? k = some list →
      (index.save (documents store)).document? (Document.keyOf list.id) =
        some (Document.ofList list)) ∧
    ∀ key, (∀ k list, store.lists.get? k = some list → key ≠ Document.keyOf list.id) →
      (index.save (documents store)).document? key = index.document? key := by
  rw [documents_eq]
  refine ⟨fun k list there => ?_, fun key other => ?_⟩
  · have listed : k ∈ store.lists.keys := Handler.mem_keys.mpr (by rw [there]; rfl)
    rw [keyed k list there]
    exact Index.document?_of_mem keyed index listed there
  · refine index.document?_save_of_absent fun document member named => ?_
    obtain ⟨k, _, list, there, rfl, _⟩ := Handler.objectId_of_mem keyed member
    exact other k list there named.symm

/-- A rebuild with nothing else going on stops at the first call that fails, with its fault. By
then the documents of the first lists are stored, page by page, and all else is as before. When no
call fails all documents are stored, and the result is their number. -/
theorem stops_at_first_fault (batch : Nat) (backend : Backend) (keyed : backend.store.Keyed)
    (outages : Outages) (clock : Nat → Timestamp) :
    Function.Injective Document.keyOf ∧
    (outages.Spares 0 (outages.rebuild clock batch backend).calls →
      (outages.rebuild clock batch backend).rest = .done (.ok backend.store.lists.size) ∧
      ∃ index, (outages.rebuild clock batch backend).state.1 = { backend with index } ∧
        (∀ k list, backend.store.lists.get? k = some list →
          index.document? (Document.keyOf list.id) = some (Document.ofList list)) ∧
        ∀ key, (∀ k list, backend.store.lists.get? k = some list → key ≠ Document.keyOf list.id) →
          index.document? key = backend.index.document? key) ∧
    (¬ outages.Spares 0 (outages.rebuild clock batch backend).calls →
      ∃ before call fault, (outages.rebuild clock batch backend).calls = before ++ [call] ∧
        outages.Spares 0 before ∧ outages.fault? before.length call = some fault ∧
        (outages.rebuild clock batch backend).rest = .done (.error fault) ∧
        (outages.rebuild clock batch backend).state.1 = { backend with
          index := backend.index.save (before.filterMap Call.documents?).flatten } ∧
        (before.filterMap Call.documents?).flatten = (documents backend.store).take
          ((before.filterMap Call.documents?).length * max batch 1)) := by
  obtain ⟨before, stop, course, spared, state, ends⟩ :=
    (course_start backend.store (max batch 1)).run rfl (by omega) outages clock 0
  rw [List.nil_append] at course
  change (outages.rebuild clock batch backend).state.1 = _ at state
  change Ends outages 0 before stop (outages.rebuild clock batch backend) at ends
  refine ⟨fun _ _ => Document.keyOf_injective, fun spares => ?done, fun fails => ?cut⟩
  case done =>
    rcases ends with ⟨total, rfl, calls, rest⟩ | ⟨call, fault, hit, calls, rest⟩
    · obtain ⟨pushed, ahead, counted⟩ := course
      have size : (documents backend.store).length = backend.store.lists.size := by
        simp [documents, Table.values, Table.size]
      have all : (before.filterMap Call.documents?).flatten = documents backend.store := by
        rw [pushed, List.take_of_length_le (size ▸ ahead)]
      rw [all] at counted state
      refine ⟨rest.trans ?_, _, state, document?_save_documents keyed backend.index⟩
      rw [← size, ← counted]
      rfl
    · rw [calls, Outages.spares_append] at spares
      rw [spares.2.1] at hit
      cases hit
  case cut =>
    rcases ends with ⟨total, rfl, calls, rest⟩ | ⟨call, fault, hit, calls, rest⟩
    · exact absurd (calls ▸ spared) fails
    · exact ⟨before, call, fault, calls, spared, Nat.zero_add before.length ▸ hit, rest, state,
        course.pushed⟩

/-- The sixth call finds the store unavailable. -/
def outage : Outages :=
  ⟨fun count => if count = 5 then some (.unavailable "connection reset") else none, fun _ => none⟩

/-- Nothing fails. -/
def calm : Outages :=
  ⟨fun _ => none, fun _ => none⟩

theorem stops_at_first_fault_outage :
    shelf.store.Keyed ∧
    (calm.rebuild default 2 shelf).rest = .done (.ok 3) ∧
    (outage.rebuild default 2 shelf).rest =
      .done (.error (.storage (.unavailable "connection reset"))) ∧
    (outage.rebuild default 2 shelf).state.1 =
      { shelf with index := Index.empty.save ((documents shelf.store).take 2) } := by
  have keyed : shelf.store.Keyed := Store.keyed_empty.fill _
  obtain ⟨-, done, -⟩ := stops_at_first_fault 2 shelf keyed calm default
  obtain ⟨-, -, cut⟩ := stops_at_first_fault 2 shelf keyed outage default
  have spares : calm.Spares 0 (calm.rebuild default 2 shelf).calls := by cbv
  have fails : ¬ outage.Spares 0 (outage.rebuild default 2 shelf).calls := by
    cbv
    exact fun spared => Option.some_ne_none _ spared.1
  obtain ⟨before, call, fault, calls, -, hit, rest, state, pushed⟩ := cut fails
  have pushes : ((outage.rebuild default 2 shelf).calls.dropLast.filterMap
      Call.documents?).length = 1 := by cbv
  have last : (outage.rebuild default 2 shelf).calls.getLast? = some (.store (.loadList ⟨3⟩)) := by
    cbv
  have count : (outage.rebuild default 2 shelf).calls.dropLast.length = 5 := by cbv
  rw [calls, List.dropLast_concat] at pushes count
  rw [calls, List.getLast?_concat] at last
  obtain rfl := Option.some.inj last
  rw [count] at hit
  obtain rfl := Option.some.inj hit
  rw [pushed, pushes] at state
  exact ⟨keyed, (done spares).1, rest, state⟩

end Rebuild

end ListKeeper
