import ListKeeper.Proofs.Request.Announced
import ListKeeper.Proofs.Session.Deed

namespace ListKeeper

/-- The events that tell of what a call has changed. -/
def StoreCall.changes : (call : StoreCall) → call.Answer → List Envelope
  | .createList .., .ok list => [⟨.listCreated, .list list.id⟩]
  | .renameList list _, .ok () => [⟨.listUpdated, .list list⟩]
  | .deleteList list _, .ok true => [⟨.listDeleted, .list list⟩]
  | .insertItem list .., .ok _ => [⟨.listUpdated, .list list⟩]
  | .putItem item, .ok () => [⟨.listUpdated, .list item.list⟩]
  | .deleteItem list _, .ok true => [⟨.listUpdated, .list list⟩]
  | _, _ => []

/-- A call whose changes are told by its events, whatever items are where. -/
def StoreCall.Plain : StoreCall → Prop
  | .putItem _ | .setItemCount .. => False
  | _ => True

/-- The items of a list that is found name the list. -/
def StoreCall.Finds : (call : StoreCall) → call.Answer → Prop
  | .findList list _, .ok (some found) => ∀ item ∈ found.items, item.list = list
  | _, _ => True

theorem StoreCall.changes_error (call : StoreCall) (fault : StorageFault) :
    call.changes (.error fault) = [] := by
  cases call <;> rfl

namespace Store

variable {store : Store} {now : Timestamp}

theorem Sound.finds (sound : store.Sound) (now : Timestamp) (call : StoreCall) :
    call.Finds (store.perform now call).1 := by
  cases call with
  | findList list owner =>
    change StoreCall.Finds (.findList list owner) (.ok (store.findList list owner))
    cases found : store.findList list owner with
    | none => trivial
    | some source => exact sound.homed list source (findList_eq_some.mp found).1
  | _ => trivial

theorem announced_perform (call : StoreCall)
    (unwrapped : Unwrapped store (store.perform now call).2)
    (uncounted : ∀ list count, call ≠ .setItemCount list count)
    (free : ∀ item, call = .putItem item → ∀ list, ¬store.Holds list item.id) :
    store.Announced (store.perform now call).2 (call.changes (store.perform now call).1) := by
  cases call with
  | createList owner name => exact announced_createList owner name unwrapped
  | findList | loadList | listIds | countItems => exact announced_refl store
  | renameList list name =>
    cases there : store.lists.get? list with
    | none =>
      have refused : store.perform now (.renameList list name) =
        (.error (.listNotFound list), store) := by simp only [perform, there]
      rw [refused]
      exact announced_refl store
    | some found =>
      have answer : (store.perform now (.renameList list name)).1 = .ok () := by
        simp only [perform, there]
      rw [answer]
      exact announced_change fun k => store.get?_renameList now list k name
  | deleteList list owner =>
    cases owned : store.findList list owner with
    | none =>
      have absent : store.perform now (.deleteList list owner) = (.ok false, store) := by
        simp only [perform, owned]
      rw [absent]
      exact announced_refl store
    | some found =>
      have answer : (store.perform now (.deleteList list owner)).1 = .ok true := by
        simp only [perform, owned]
      rw [answer]
      exact announced_deleteList (by rw [owned]; rfl)
  | insertItem list title description position =>
    cases there : store.lists.get? list with
    | none =>
      have refused : store.perform now (.insertItem list title description position) =
        (.error (.listNotFound list), store) := by simp only [perform, there]
      rw [refused]
      exact announced_refl store
    | some found =>
      have answer : (store.perform now (.insertItem list title description position)).1 =
          .ok (store.insertItem now list title description position).1 := by
        simp only [perform, there]
      rw [answer]
      exact announced_change fun k => store.get?_insertItem now list k title description position
  | putItem item =>
    cases home : store.lists.get? item.list with
    | none =>
      rw [perform_putItem_of_none _ _ home]
      exact announced_refl store
    | some target =>
      have answer : (store.perform now (.putItem item)).1 = .ok () := by
        simp only [perform, home]
      rw [answer]
      exact announced_change (get?_putItem_of_free (free item rfl) (by rw [home]; rfl))
  | deleteItem list item =>
    by_cases held : store.Holds list item
    · rw [perform_deleteItem_of_holds held]
      exact announced_change fun k => store.get?_deleteItem now list k item
    · rw [perform_deleteItem_of_not_holds held]
      exact announced_refl store
  | setItemCount list count => exact absurd rfl (uncounted list count)

end Store

namespace Request

/-- A request with this still to do has to publish these events, and does so if nothing fails. -/
inductive Duty : List Envelope → Job Result → Prop where
  | done (result : Result) : Duty [] (.done result)
  /-- It makes a call on the store, and then owes the events about what that has changed. -/
  | asking (call : StoreCall) (next : call.Answer → Job Result) (meanwhile : Job Result)
      (plain : call.Plain) (empty : ∀ answer, carried (next answer) = none)
      (later : ∀ answer, call.Finds answer → Duty (call.changes answer) (next answer)) :
    Duty [] (.call (.store call) next meanwhile)
  | lifting (origin : ListId) (stored moved : Item) (fault failed : StorageFault → RequestFault)
      (missing : RequestFault) (home : stored.list = origin) (same : moved.id = stored.id) :
    Duty [] (lifting origin stored moved fault failed missing)
  | placing (origin : ListId) (stored moved : Item) (failed : StorageFault → RequestFault)
      (home : stored.list = origin) (same : moved.id = stored.id) :
    Duty [⟨.listUpdated, .list origin⟩] (placing origin stored moved failed)
  | restoring (stored : Item) (failed : RequestFault) :
    Duty [⟨.listUpdated, .list stored.list⟩] (restoring stored failed)
  | publishing (event : Envelope) (owed rest : List Envelope) (next : Nat → Job Result)
      (meanwhile : Job Result)
      (covers : ∀ topic list,
        ⟨topic, .list list⟩ ∈ owed ↔ ⟨topic, .list list⟩ = event ∨ ⟨topic, .list list⟩ ∈ rest)
      (empty : ∀ reached, carried (next reached) = none) (later : ∀ reached, Duty rest (next reached)) :
    Duty owed (.call (.publish event) next meanwhile)
  | telling (notice : Notice) (next : Unit → Job Result) (meanwhile : Job Result)
      (empty : carried (next ()) = none) (later : Duty [] (next ())) :
    Duty [] (.call (.tell notice) next meanwhile)

theorem duty_failing (fault : RequestFault) : Duty [] (failing fault) :=
  .done _

theorem duty_storing {call : StoreCall} {fault : StorageFault → RequestFault}
    {next : call.Result → Job Result} (plain : call.Plain)
    (empty : ∀ result, carried (next result) = none)
    (later : ∀ result, call.Finds (.ok result) → Duty (call.changes (.ok result)) (next result)) :
    Duty [] (storing call fault next) := by
  refine .asking _ _ _ plain (fun answer => ?_) fun answer finds => ?_
  · cases answer with
    | error cause => rfl
    | ok result => exact empty result
  · cases answer with
    | error cause =>
      rw [call.changes_error]
      exact duty_failing _
    | ok result => exact later result finds

theorem duty_telling {topic : Topic} {list : ListId} {owed : List Envelope} {next : Job Result}
    (rest : List Envelope) (covers : ∀ other, other ∈ owed ↔ other = ⟨topic, .list list⟩ ∨ other ∈ rest)
    (empty : carried next = none) (later : Duty rest next) : Duty owed (telling topic list next) :=
  .publishing _ owed rest _ _ (fun _ _ => covers _) (fun _ => empty) fun _ => later

/-- The event about the one thing that is owed is published, and nothing is left to do. -/
theorem duty_telling_last {topic : Topic} {list : ListId} {result : Result} :
    Duty [⟨topic, .list list⟩] (telling topic list (.done result)) :=
  duty_telling [] (fun _ => List.mem_cons) rfl (.done result)

/-- A move that has stored its item publishes both events. -/
theorem duty_placed {origin destination : ListId} {result : Result} :
    Duty [⟨.listUpdated, .list destination⟩, ⟨.listUpdated, .list origin⟩]
      (telling .listUpdated origin (telling .listUpdated destination (.done result))) := by
  refine duty_telling [⟨.listUpdated, .list destination⟩] (fun other => ?_) rfl duty_telling_last
  simp [or_comm]

theorem duty_finding {list : ListId} {user : UserId} {next : ItemList → Job Result}
    (empty : ∀ found, carried (next found) = none) (later : ∀ found, Duty [] (next found)) :
    Duty [] (finding list user next) := by
  refine duty_storing trivial (fun found => ?_) fun found _ => ?_
  · cases found with
    | none => rfl
    | some found => exact empty found
  · cases found with
    | none => exact duty_failing _
    | some found => exact later found

theorem duty_trimming {field value : String} {next : String → Job Result}
    (later : ∀ text, Duty [] (next text)) : Duty [] (trimming field value next) := by
  unfold trimming
  split
  · exact duty_failing _
  · exact later _

theorem duty_taking {origin : ListId} {item : ItemId} {destination : ListId}
    {source target : Option ItemList}
    (homed : ∀ found ∈ source, ∀ stored ∈ found.items, stored.list = origin) :
    Duty [] (taking origin item destination source target) := by
  unfold taking
  rcases target with _ | target
  · exact duty_failing _
  rcases source with _ | source
  · exact duty_failing _
  cases here : source.item? item with
  | none =>
    simp only [here]
    exact duty_failing _
  | some stored =>
    simp only [here]
    obtain ⟨member, rfl⟩ := ItemList.item?_some here
    exact .lifting origin stored _ _ _ _ (homed source rfl stored member) rfl

/-- What is found of a user's list names the list. -/
theorem homed_of_finds {list : ListId} {user : UserId} {source : Option ItemList}
    (finds : StoreCall.Finds (.findList list user) (.ok source)) :
    ∀ found ∈ source, ∀ stored ∈ found.items, stored.list = list := by
  rintro found ⟨⟩
  exact finds

theorem duty_job (request : Request) : Duty [] request.job := by
  cases request with
  | createList user name =>
    rw [job_createList]
    exact duty_trimming fun text => duty_storing trivial (fun _ => rfl) fun list _ => duty_telling_last
  | getList list user =>
    rw [job_getList]
    exact duty_finding (fun _ => rfl) fun found => .done _
  | renameList list user name =>
    rw [job_renameList]
    refine duty_trimming fun text => duty_finding (fun _ => rfl) fun found => ?_
    refine duty_storing trivial (fun _ => rfl) fun _ _ => ?_
    refine duty_telling [] (fun _ => List.mem_cons) rfl ?_
    exact duty_finding (fun _ => rfl) fun found => .done _
  | deleteList list user =>
    rw [job_deleteList]
    refine duty_storing trivial (fun deleted => ?_) fun deleted _ => ?_
    · cases deleted <;> rfl
    · cases deleted with
      | false => exact duty_failing _
      | true => exact duty_telling_last
  | addItem list user title description =>
    rw [job_addItem]
    refine duty_trimming fun text => duty_finding (fun _ => rfl) fun found => ?_
    exact duty_storing trivial (fun _ => rfl) fun item _ => duty_telling_last
  | deleteItem list item user =>
    rw [job_deleteItem]
    refine duty_finding (fun _ => rfl) fun found => ?_
    refine duty_storing trivial (fun deleted => ?_) fun deleted _ => ?_
    · cases deleted <;> rfl
    · cases deleted with
      | false => exact duty_failing _
      | true => exact duty_telling_last
  | moveItem origin item destination user =>
    rw [job_moveItem]
    split
    · exact duty_failing _
    refine .asking _ _ _ trivial (fun answer => ?_) fun answer finds => ?_
    · cases answer <;> rfl
    · cases answer with
      | error cause => exact duty_failing _
      | ok source =>
        refine duty_storing trivial (fun target => carried_taking source target) fun target _ => ?_
        exact duty_taking (homed_of_finds finds)
  | reindex =>
    rw [job_reindex]
    exact .publishing _ [] [] _ _ (fun _ _ => by simp) (fun _ => rfl) fun _ => .done _

/-- A request owes nothing at its beginning. -/
theorem Course.duty {request : Request} {job : Job Result} (course : Course request job) :
    Duty [] job := by
  cases course with
  | job => exact duty_job request
  | overtaken origin item destination user =>
    refine duty_storing trivial (fun _ => rfl) fun target _ => ?_
    refine duty_storing trivial (fun source => carried_taking source target) fun source finds => ?_
    exact duty_taking (homed_of_finds finds)

end Request

end ListKeeper
