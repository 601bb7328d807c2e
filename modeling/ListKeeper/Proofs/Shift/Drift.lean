import ListKeeper.Proofs.Pipeline.Convergence
import ListKeeper.Proofs.Shift.Workers

namespace ListKeeper

open Request (Duty)

/-- A request that owes nothing has nothing in its hands. -/
theorem Request.Duty.empty {job : Job Request.Result} (duty : Duty [] job) :
    Request.carried job = none := by
  cases duty with
  | asking call next meanwhile plain =>
    cases call with
    | putItem item => exact plain.elim
    | _ => rfl
  | done | lifting | publishing | telling => rfl

namespace Shift

/-- The requests and the workers after the first steps. -/
def moment (callback : Callback) (shift : Shift) (steps : List Step) (t : Nat) : Shift :=
  run callback shift (steps.take t)

/-- While steps are taken, nothing is dropped, no number wraps around, and no move is rolled back. -/
structure Untroubled (callback : Callback) (shift : Shift) (steps : List Step) : Prop where
  undropped : ∀ t ≤ steps.length, (shift.moment callback steps t).session.backend.bus.dropped = 0
  unwrapped : ∀ t < steps.length,
    Store.Unwrapped (shift.moment callback steps t).session.backend.store
      (shift.moment callback steps (t + 1)).session.backend.store
  kept : ∀ t ≤ steps.length, ∀ job ∈ (shift.moment callback steps t).session.jobs,
    tellsNext job = false

def isDone : Job Request.Result → Bool
  | .done _ => true
  | _ => false

theorem owes_of_isDone {events : List Envelope} {job : Job Request.Result} (duty : Duty events job)
    (done : isDone job = true) : events = [] := by
  cases duty with
  | done => rfl
  | asking | lifting | placing | restoring | publishing | telling => cases done

def isIdle (worker : Worker Call.interface) : Bool :=
  match worker.phase with
  | .idle => true
  | _ => false

/-- Every request has been answered, every worker is idle, and no event is on its way. -/
structure Rests (shift : Shift) : Prop where
  answered : ∀ job ∈ shift.session.jobs, isDone job = true
  idle : ∀ worker ∈ shift.workers, isIdle worker = true
  quiet : shift.session.backend.bus.pending = 0

variable {callback : Callback} {batch : Nat} {shift : Shift} {owed : Nat → List Envelope}
  {tasks : Nat → Task}

theorem Steady.act (steady : Steady batch shift owed tasks) (step : Step)
    (unwrapped : Store.Unwrapped shift.session.backend.store
      (Shift.act callback shift step).session.backend.store)
    (undropped : (Shift.act callback shift step).session.backend.bus.dropped =
      shift.session.backend.bus.dropped)
    (kept : ∀ job ∈ (Shift.act callback shift step).session.jobs, tellsNext job = false) :
    ∃ owed' tasks', Steady batch (Shift.act callback shift step) owed' tasks' := by
  cases step with
  | request index now =>
    obtain ⟨owed', steady'⟩ := steady.request index now unwrapped undropped
      (Session.job_of_all (fun _ => rfl) kept index)
    exact ⟨owed', tasks, steady'⟩
  | take place => exact ⟨owed, steady.take callback place⟩
  | work place now =>
    refine ⟨owed, ?_⟩
    cases there : shift.workers[place]? with
    | none =>
      simp only [Shift.act, there]
      exact ⟨tasks, steady⟩
    | some worker =>
      simp only [Shift.act, there]
      exact steady.work there now
  | finish place => exact ⟨owed, steady.finish callback place⟩
  | drain task => exact ⟨owed, tasks, steady.drain callback task⟩

theorem Steady.run (steady : Steady batch shift owed tasks) {steps : List Step}
    (untroubled : Untroubled callback shift steps) :
    ∃ owed' tasks', Steady batch (Shift.run callback shift steps) owed' tasks' := by
  refine foldl_keeps (Shift.act callback) (fun shift => ∃ owed tasks, Steady batch shift owed tasks)
    (fun before after =>
      Store.Unwrapped before.session.backend.store after.session.backend.store ∧
      after.session.backend.bus.dropped = before.session.backend.bus.dropped ∧
      ∀ job ∈ after.session.jobs, tellsNext job = false)
    (fun shift step ⟨owed, tasks, steady⟩ fine => steady.act step fine.1 fine.2.1 fine.2.2)
    ⟨owed, tasks, steady⟩ steps fun t within => ?_
  refine ⟨untroubled.unwrapped t within, ?_, untroubled.kept (t + 1) within⟩
  exact (untroubled.undropped (t + 1) within).trans
    (untroubled.undropped t (Nat.le_of_lt within)).symm

/-- What holds of requests and workers before their first step. -/
theorem steady_opening {settings : Pipeline.Settings} {maxInflight : Nat}
    {workers : List (Worker Call.interface)} {bus : Bus}
    (started : Pipeline.start? settings (Bus.new maxInflight) = some (workers, bus))
    {store : Store} {documents : Index} (sound : store.Sound)
    (mirrored : ∀ key document, documents.document? key = some document ↔
      ∃ k list, store.lists.get? k = some list ∧ key = Document.keyOf k ∧
        document = Document.ofList list)
    {jobs : List (Job Request.Result)} (courses : ∀ job ∈ jobs, ∃ request, Request.Course request job) :
    Steady settings.reindexBatch (opening workers ⟨store, documents, bus, []⟩ jobs) (fun _ => [])
      fun _ => .free := by
  obtain ⟨rfl, wired, quiet⟩ := Pipeline.start_wired started
  have silent {id k} : ¬Out bus (fun _ => []) id k := by
    rintro (names | ⟨_, _, member, _⟩)
    · exact not_names_of_nil (quiet id) k names
    · cases member
  let session : Session := ⟨⟨store, documents, bus, []⟩, jobs⟩
  have duties : ∀ index, Duty [] (session.job index) := Session.job_of_all .done fun job member => by
    obtain ⟨_, course⟩ := courses job member
    exact course.duty
  have empty (index) : session.carried index = none :=
    (session.carried_eq index).trans (duties index).empty
  have hands : session.Hands := by
    refine ⟨fun index item carries => ?_, fun index item carries => ?_⟩ <;>
    · rw [empty] at carries
      cases carries
  refine ⟨wired, sound, hands, duties, fun place => ?_, fun _ _ => nofun, ?_⟩
  · match place with
    | 0 | 1 | 2 | 3 => exact ⟨rfl, .idle _⟩
    | _ + 4 => rfl
  · refine ⟨⟨fun k list stored => ?_, fun key document found => ?_, fun k leaves => ?_⟩,
      fun _ => nofun, fun _ => nofun⟩
    · exact Or.inl ((mirrored _ _).mpr ⟨k, list, stored, rfl, rfl⟩)
    · obtain ⟨k, list, stored, rfl, _⟩ := (mirrored key document).mp found
      exact ⟨k, rfl, Or.inl (Option.isSome_iff_exists.mpr ⟨list, stored⟩)⟩
    · rcases leaves with (out | task) | left
      · exact absurd out silent
      · cases task
      · cases left

/-- What is left when all is done: nothing is owed, and no worker has a task. -/
theorem Steady.nothing (steady : Steady batch shift owed tasks) (rests : shift.Rests) :
    (∀ place k, ¬Out shift.session.backend.bus owed place k) ∧ ∀ place, tasks place = .free := by
  have owes (index) : owed index = [] :=
    owes_of_isDone (steady.duties index) (Session.job_of_all (fun _ => rfl) rests.answered index)
  refine ⟨fun place k out => ?_, fun place => ?_⟩
  · rcases out with names | ⟨index, _, member, _⟩
    · exact not_names_of_nil (Bus.inTransit_of_pending rests.quiet place) k names
    · rw [owes] at member
      cases member
  · cases there : shift.workers[place]? with
    | none =>
      have post := steady.posts place
      rwa [there] at post
    | some worker =>
      have idle := rests.idle worker (List.mem_of_getElem? there)
      obtain ⟨_, here⟩ := steady.at_task there
      obtain ⟨handler, topics, id, phase⟩ := worker
      generalize tasks place = task at here ⊢
      cases here with
      | idle => rfl
      | ended | counting | loading | saving | removing | fetching => cases idle

/-- When all requests have been answered, all workers are idle and no event is left, whatever order
their calls were made in, the index has no document of a list that is not stored, unless a worker
had read the list and not yet stored its document when that was removed, and it has the current
document of each stored list, unless the worker for all lists was the last to store it, and the one
for single lists had stored another since the former had read the list. -/
theorem documents_of_rests (settings : Pipeline.Settings) (maxInflight : Nat)
    (callback : Callback) (workers : List (Worker Call.interface)) (bus : Bus)
    (started : Pipeline.start? settings (Bus.new maxInflight) = some (workers, bus))
    (store : Store) (index : Index) (sound : store.Sound)
    (mirrored : ∀ key document, index.document? key = some document ↔
      ∃ k list, store.lists.get? k = some list ∧ key = Document.keyOf k ∧
        document = Document.ofList list)
    (jobs : List (Job Request.Result)) (courses : ∀ job ∈ jobs, ∃ request, Request.Course request job)
    (steps : List Step)
    (untroubled : Untroubled callback (opening workers ⟨store, index, bus, []⟩ jobs) steps)
    (rests : (run callback (opening workers ⟨store, index, bus, []⟩ jobs) steps).Rests) :
    let final := run callback (opening workers ⟨store, index, bus, []⟩ jobs) steps
    (∀ key document, final.session.backend.index.document? key = some document →
      ∃ k, key = Document.keyOf k ∧
        ((final.session.backend.store.lists.get? k).isSome ∨ key ∈ final.crossings.stranded)) ∧
    ∀ k list, final.session.backend.store.lists.get? k = some list →
      final.session.backend.index.document? (Document.keyOf k) = some (Document.ofList list) ∨
        Document.keyOf k ∈ final.crossings.outdated := by
  intro final
  obtain ⟨owed, tasks, steady⟩ : ∃ owed tasks, Steady settings.reindexBatch final owed tasks :=
    (steady_opening started sound mirrored courses).run untroubled
  obtain ⟨none, free⟩ := steady.nothing rests
  refine ⟨fun key document found => ?_, fun k list stored => ?_⟩
  · obtain ⟨k, rfl, there⟩ := steady.projected.mirrors.gone key document found
    refine ⟨k, rfl, there.imp_right fun leaves => leaves.resolve_left ?_⟩
    rintro (out | task)
    · exact none 2 k out
    · rw [free] at task
      exact task
  · refine (steady.projected.mirrors.indexed k list stored).imp_right fun due => due.resolve_left ?_
    rintro (out | task)
    · exact none 1 k out
    · rw [free] at task
      exact task

/-- Requests that are served with the smallest pipeline. -/
def serving (requests : List Request) : Shift :=
  opening Pipeline.smallest.workers Pipeline.smallest.state (requests.map Request.job)

theorem courses_serving (requests : List Request) :
    ∀ job ∈ requests.map Request.job, ∃ request, Request.Course request job := by
  intro job member
  obtain ⟨request, _, rfl⟩ := List.mem_map.mp member
  exact ⟨request, .job request⟩

theorem mirrored_empty (key : String) (document : Document) :
    Index.empty.document? key = some document ↔
      ∃ k list, Store.empty.lists.get? k = some list ∧ key = Document.keyOf k ∧
        document = Document.ofList list := by
  constructor
  · nofun
  · rintro ⟨k, list, ⟨⟩, _⟩

/-- A list is created, and renamed after its first document has been made and before that is stored.
Then the event about its new name is handled. -/
def renamedMeanwhile : List Step :=
  [.request 0 default, .request 0 default, .take 1, .work 1 default, .request 1 default,
    .request 1 default, .request 1 default, .request 1 default, .work 1 default, .finish 1, .take 1,
    .work 1 default, .work 1 default, .finish 1, .take 0, .work 0 default, .work 0 default, .finish 0]

theorem documents_of_rests_renamed :
    let final := run Callback.logging
      (serving [.createList ⟨1⟩ "groceries", .renameList ⟨1⟩ ⟨1⟩ "food"]) renamedMeanwhile
    final.Rests ∧ ∃ list, final.session.backend.store.lists.get? ⟨1⟩ = some list ∧
      list.name = "food" ∧ final.session.backend.index.document? "1" = some (Document.ofList list) := by
  intro final
  have rests : final.Rests := ⟨by decide +kernel, by decide +kernel, by decide +kernel⟩
  have named : (final.session.backend.store.lists.get? ⟨1⟩).map ItemList.name = some "food" := by
    decide +kernel
  obtain ⟨list, stored, name⟩ := Option.map_eq_some_iff.mp named
  refine ⟨rests, list, stored, name, ?_⟩
  have current := (documents_of_rests ⟨1, 1⟩ 1 Callback.logging _ _
    (Option.some_get Pipeline.isSome_start).symm .empty .empty Store.sound_empty mirrored_empty _
    (courses_serving _) renamedMeanwhile
    ⟨by decide +kernel, by decide +kernel, by decide +kernel⟩ rests).2 ⟨1⟩ list stored
  exact current.resolve_right (by decide +kernel)

/-- A list is deleted after its document has been made and before that is stored. -/
def deletedMeanwhile : List Step :=
  [.request 0 default, .request 0 default, .take 1, .work 1 default, .request 1 default,
    .request 1 default, .take 2, .work 2 default, .finish 2, .work 1 default, .finish 1]

/-- A list is renamed, and its new document stored, between the reading of all lists and the storing
of their documents. -/
def rebuiltMeanwhile : List Step :=
  [.request 0 default, .request 0 default, .take 1, .work 1 default, .work 1 default, .finish 1,
    .request 2 default, .take 3, .work 3 default, .work 3 default, .request 1 default,
    .request 1 default, .request 1 default, .request 1 default, .take 0, .work 0 default,
    .work 0 default, .finish 0, .take 1, .work 1 default, .work 1 default, .finish 1,
    .work 3 default, .work 3 default, .finish 3]

/-- Documents that cross each other can leave the index with the document of a list that is not
stored any more, and with an old document of a list that is. -/
theorem not_documents_of_rests :
    let start := serving [.createList ⟨1⟩ "groceries", .deleteList ⟨1⟩ ⟨1⟩]
    let start' := serving [.createList ⟨1⟩ "groceries", .renameList ⟨1⟩ ⟨1⟩ "food", .reindex]
    let deleted := run Callback.logging start deletedMeanwhile
    let renamed := run Callback.logging start' rebuiltMeanwhile
    (Untroubled Callback.logging start deletedMeanwhile ∧ deleted.Rests ∧
      deleted.session.backend.store.lists.get? ⟨1⟩ = none ∧
      (deleted.session.backend.index.document? "1").isSome) ∧
    Untroubled Callback.logging start' rebuiltMeanwhile ∧ renamed.Rests ∧
      ∃ list, renamed.session.backend.store.lists.get? ⟨1⟩ = some list ∧
        renamed.session.backend.index.document? "1" ≠ some (Document.ofList list) := by
  intro start start' deleted renamed
  have stored : (renamed.session.backend.store.lists.get? ⟨1⟩).isSome := by decide +kernel
  have stale : renamed.session.backend.index.document? "1" ≠
      (renamed.session.backend.store.lists.get? ⟨1⟩).map Document.ofList := by decide +kernel
  obtain ⟨list, there⟩ := Option.isSome_iff_exists.mp stored
  rw [there] at stale
  refine ⟨⟨⟨by decide +kernel, by decide +kernel, by decide +kernel⟩,
    ⟨by decide +kernel, by decide +kernel, by decide +kernel⟩, by decide +kernel, by decide +kernel⟩,
    ⟨by decide +kernel, by decide +kernel, by decide +kernel⟩,
    ⟨by decide +kernel, by decide +kernel, by decide +kernel⟩,
    list, there, stale⟩

end Shift

end ListKeeper
