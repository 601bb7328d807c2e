import ListKeeper.Proofs.Request.Cut
import ListKeeper.Proofs.Store.Placed

namespace ListKeeper

namespace Request

/-- The events that a request publishes when it succeeds, in their order. -/
def documented (answer : Answer) : Request → List Envelope
  | .createList .. =>
    match answer with
    | .list created => [⟨.listCreated, .list created.id⟩]
    | _ => []
  | .getList .. => []
  | .renameList list .. => [⟨.listUpdated, .list list⟩]
  | .deleteList list _ => [⟨.listDeleted, .list list⟩]
  | .addItem list .. => [⟨.listUpdated, .list list⟩]
  | .deleteItem list .. => [⟨.listUpdated, .list list⟩]
  | .moveItem origin _ destination _ =>
    [⟨.listUpdated, .list origin⟩, ⟨.listUpdated, .list destination⟩]
  | .reindex => [⟨.indexAllListsRequested, .empty⟩]

theorem events_of_ok {store after : Store} {request : Request} {answer : Answer}
    {events : List Envelope} (effect : store.Effect request (.ok answer) after events) :
    events = request.documented answer := by
  cases effect <;> rfl

theorem untouched_of_error {store after : Store} {request : Request} {fault : RequestFault}
    {events : List Envelope} (effect : store.Effect request (.error fault) after events) :
    after = store ∧ events = [] := by
  cases effect
  exact ⟨rfl, rfl⟩

/-- A request has failed, the lists look as before and nothing is published; or it has succeeded,
has written what it writes when no call fails, and has published its events. -/
def Settled (request : Request) (clock : Nat → Timestamp) (backend : Backend)
    (progress : Program.Progress Call.interface (Backend × Nat) Result) : Prop :=
  (∃ fault, progress.rest = .done (.error fault) ∧
    progress.state.1.store.Resembles backend.store ∧ Call.published progress.calls = []) ∨
  ∃ answer, progress.rest = .done (.ok answer) ∧
    progress.state.1.store = (request.outcome backend clock).store ∧
    Call.published progress.calls = request.documented answer

/-- At most one call on the store fails. -/
def Once (failure : Nat → Option StorageFault) : Prop :=
  ∀ first second, (failure first).isSome → (failure second).isSome → first = second

/-- An item is to be put back after its list was to be changed, but it names another list than the
one that it was taken from. -/
inductive Strays (store : Store) (failure : Nat → Option StorageFault) : Request → Prop where
  | intro (origin : ListId) (item : ItemId) (destination : ListId) (user : UserId)
      (source target : ItemList) (stored : Item) (apart : origin ≠ destination)
      (owned : store.findList origin user = some source)
      (other : store.findList destination user = some target)
      (here : source.item? item = some stored) (elsewhere : stored.list ≠ origin)
      (fails : (failure 3).isSome) :
    Strays store failure (.moveItem origin item destination user)

theorem Undone.resembles {store after : Store} {request : Request} {clock : Nat → Timestamp}
    {failure : Nat → Option StorageFault} (undone : Undone store clock failure request after)
    (unique : store.Unique) (straight : ¬Strays store failure request) :
    after.Resembles store := by
  cases undone with
  | untouched => exact fun _ => rfl
  | putBack origin item destination user source target stored apart owned other here fails =>
    have home : stored.list = origin := by
      by_contra elsewhere
      exact straight (.intro origin item destination user source target stored apart owned other here
        elsewhere fails)
    have there := (Store.findList_eq_some.mp owned).1
    obtain ⟨_, rfl⟩ := ItemList.item?_some here
    exact unique.resembles_putBack there here home (clock 2) (clock 4)

/-- What resolves is settled: what is undone looks as it was before. -/
theorem Resolves.settled {request : Request} {clock : Nat → Timestamp}
    {failure : Nat → Option StorageFault} {backend : Backend}
    (resolves : Resolves failure clock 0 request.job backend request
      (request.outcome backend clock)) (unique : backend.store.Unique)
    (straight : ¬Strays backend.store failure request) :
    Settled request clock backend
      (request.job.advance (Backend.script clock failure) (backend, 0)) := by
  cases resolves with
  | failed call fails fault rest store published =>
    exact Or.inl ⟨fault, rest, store.resembles unique straight, published⟩
  | complete ends =>
    have effect := fits_outcome request clock backend
    have left : (request.job.advance (Backend.script clock failure) (backend, 0)).state.1.store =
        (request.outcome backend clock).store := by
      rw [ends.state, Backend.store_publishAll]
    unfold Outcome.Fits at effect
    cases result : (request.outcome backend clock).result with
    | error fault =>
      rw [result] at effect
      obtain ⟨same, silent⟩ := untouched_of_error effect
      refine Or.inl ⟨fault, ends.rest.trans (by rw [result]), fun k => ?_,
        ends.published.trans silent⟩
      rw [left, same]
    | ok answer =>
      rw [result] at effect
      exact Or.inr ⟨answer, ends.rest.trans (by rw [result]), left,
        ends.published.trans (events_of_ok effect)⟩

theorem Once.only {failure : Nat → Option StorageFault} (once : Once failure) {first second : Nat}
    (fails : (failure first).isSome) (different : second ≠ first) : failure second = none :=
  Option.not_isSome_iff_eq_none.mp fun other => different (once second first other fails)

/-- When one call on the store fails at most, a request fails without a trace or succeeds with all
that it does, unless it renames a list and does not find it again: then it has stored the name and
published the event, and fails. -/
theorem settled_job (request : Request) (clock : Nat → Timestamp)
    (failure : Nat → Option StorageFault) (backend : Backend) (unique : backend.store.Unique)
    (once : Once failure) (straight : ¬Strays backend.store failure request) :
    let progress := request.job.advance (Backend.script clock failure) (backend, 0)
    (¬Rereads backend.store failure request → Settled request clock backend progress) ∧
      ∀ list user name, request = .renameList list user name →
        Rereads backend.store failure request →
          ∃ cause, failure 2 = some cause ∧
            Ends progress backend
              (.error (Operation.stopped ("loading list " ++ list.text) cause))
              (request.outcome backend clock).store [⟨.listUpdated, .list list⟩] := by
  intro progress
  refine ⟨fun found => ?_, ?_⟩
  · have resolves : Resolves failure clock 0 request.job backend request
      (request.outcome backend clock) := resolves_job request once found
    exact resolves.settled unique straight
  · rintro list user name rfl rereads
    have first : failure 0 = none := once.only rereads.fails (by decide)
    have second : failure 1 = none := once.only rereads.fails (by decide)
    obtain ⟨cause, fails⟩ := Option.isSome_iff_exists.mp rereads.fails
    exact ⟨cause, fails, rereads.ends first second fails⟩

/-- The call of this number fails. -/
def failingAt (call : Nat) : Nat → Option StorageFault := fun served =>
  if served = call then some (.unavailable "connection reset") else none

theorem once_failingAt (call : Nat) : Once (failingAt call) := by
  intro first second firstFails secondFails
  have same (served) (fails : (failingAt call served).isSome) : served = call := by
    unfold failingAt at fails
    split at fails
    · assumption
    · cases fails
  rw [same first firstFails, same second secondFails]

/-- A move that cannot store the item in its new list puts it back, and a rename that does not find
its list again has stored the name. -/
theorem settled_job_putBack :
    (bareLists.store.Unique ∧ Once (failingAt 3) ∧
      ¬Rereads bareLists.store (failingAt 3) (.moveItem ⟨1⟩ ⟨1⟩ ⟨2⟩ ⟨1⟩) ∧
      ¬Strays bareLists.store (failingAt 3) (.moveItem ⟨1⟩ ⟨1⟩ ⟨2⟩ ⟨1⟩) ∧
      Settled (.moveItem ⟨1⟩ ⟨1⟩ ⟨2⟩ ⟨1⟩) (fun _ => default) bareLists
        ((moveItem ⟨1⟩ ⟨1⟩ ⟨2⟩ ⟨1⟩).job.advance (Backend.script (fun _ => default) (failingAt 3))
          (bareLists, 0))) ∧
    Rereads bareLists.store (failingAt 2) (.renameList ⟨1⟩ ⟨1⟩ "food") ∧
      ∃ cause, Ends
        ((renameList ⟨1⟩ ⟨1⟩ "food").job.advance (Backend.script (fun _ => default) (failingAt 2))
          (bareLists, 0)) bareLists
        (.error (Operation.stopped "loading list 1" cause))
        (bareLists.store.perform default (.renameList ⟨1⟩ "food")).2
        [⟨.listUpdated, .list ⟨1⟩⟩] := by
  have found : ¬Rereads bareLists.store (failingAt 3) (.moveItem ⟨1⟩ ⟨1⟩ ⟨2⟩ ⟨1⟩) := by
    rintro ⟨⟩
  have straight : ¬Strays bareLists.store (failingAt 3) (.moveItem ⟨1⟩ ⟨1⟩ ⟨2⟩ ⟨1⟩) := by
    rintro ⟨_, _, _, _, source, target, stored, apart, owned, other, here, elsewhere, _⟩
    have there := (Store.findList_eq_some.mp owned).1
    exact elsewhere (Store.sound_twoLists.homed _ source there stored (ItemList.item?_some here).1)
  have lost : Rereads bareLists.store (failingAt 2) (.renameList ⟨1⟩ ⟨1⟩ "food") :=
    .intro _ _ _ rfl rfl rfl
  refine ⟨⟨unique_bareLists, once_failingAt 3, found, straight, ?_⟩, lost, ?_⟩
  · exact (settled_job _ _ _ bareLists unique_bareLists (once_failingAt 3) straight).1 found
  · obtain ⟨cause, _, ends⟩ := (settled_job _ (fun _ => default) _ bareLists unique_bareLists
      (once_failingAt 2) (by rintro ⟨⟩)).2 ⟨1⟩ ⟨1⟩ "food" rfl lost
    exact ⟨cause, ends⟩

/-- Two lists of one user, the first with an item that names the second. -/
def astray : Backend :=
  let first := Store.empty.seed ⟨⟨1⟩, ⟨1⟩, "groceries", 1,
    [⟨⟨1⟩, ⟨2⟩, "milk", "", 0, default, default⟩], default, default⟩
  ⟨first.seed ⟨⟨2⟩, ⟨1⟩, "errands", 0, [], default, default⟩, .empty, .new 1, []⟩

theorem unique_astray : astray.store.Unique :=
  Store.unique_of_nodup_numbers (by decide)

/-- Both exceptions are real: a rename can fail after it has been stored and published, and a move
can fail with the item in another list. -/
theorem not_settled :
    (¬∀ (request : Request) (clock : Nat → Timestamp) (failure : Nat → Option StorageFault)
      (backend : Backend), backend.store.Unique → Once failure →
        Settled request clock backend
          (request.job.advance (Backend.script clock failure) (backend, 0))) ∧
    ¬∀ (request : Request) (clock : Nat → Timestamp) (failure : Nat → Option StorageFault)
      (backend : Backend), backend.store.Unique → Once failure →
        ¬Rereads backend.store failure request →
          Settled request clock backend
            (request.job.advance (Backend.script clock failure) (backend, 0)) := by
  constructor
  · intro settled
    rcases settled (.renameList ⟨1⟩ ⟨1⟩ "food") (fun _ => default) (failingAt 2) bareLists
      unique_bareLists (once_failingAt 2) with ⟨_, _, _, silent⟩ | ⟨_, rest, _⟩
    · revert silent
      decide
    · cases rest
  · intro settled
    rcases settled (.moveItem ⟨1⟩ ⟨1⟩ ⟨2⟩ ⟨1⟩) (fun _ => default) (failingAt 3) astray
      unique_astray (once_failingAt 3) (by rintro ⟨⟩) with ⟨_, _, same, _⟩ | ⟨_, rest, _⟩
    · have second := same ⟨2⟩
      revert second
      decide
    · cases rest

end Request

end ListKeeper
