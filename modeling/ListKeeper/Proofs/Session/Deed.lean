import ListKeeper.Proofs.Session.Standing

namespace ListKeeper

/-- A request has this past when its next call is made, and the later one after it. -/
structure Past.Leads (past : Past) (job : Job Request.Result) (before after : Store)
    (later : Past) : Prop extends past.Upto later where
  stored : ∀ list item, after.Has list item → later.items item.card ∧ later.Belongs list item
  found : ∀ list, (after.lists.get? list).isSome → later.lists list
  /-- A list that has been there and is not there any more has been deleted. -/
  missed : (∀ result, job ≠ .done result) →
    ∀ list, past.lists list → before.lists.get? list = none → later.deleted list

theorem StoreCall.Harmless.items {call : StoreCall} (harmless : call.Harmless) {store : Store}
    {now : Timestamp} (formed : store.WellFormed)
    (unwrapped : Store.Unwrapped store (store.perform now call).2) :
    (∀ k x, (store.perform now call).2.Has k x ↔ store.Has k x) ∨
      ∃ list, (store.perform now call).2.lists.get? list = none ∧
        ∀ k x, (store.perform now call).2.Has k x ↔ store.Has k x ∧ k ≠ list := by
  cases call with
  | createList owner name =>
    exact .inl fun k x => Store.has_createList (formed.get?_nextList unwrapped.1)
  | renameList list name => exact .inl fun k x => Store.has_renameList
  | setItemCount list count => exact .inl fun k x => Store.has_setItemCount
  | deleteList list owner =>
    by_cases owned : (store.findList list owner).isSome
    · right
      refine ⟨list, ?_, fun k x => ?_⟩
      · exact (store.get?_deleteList now list list owner).trans (if_pos ⟨rfl, owned⟩)
      · simp [Store.has_deleteList, owned]
    · left
      intro k x
      simp [Store.has_deleteList, owned]
  | insertItem | putItem | deleteItem => exact harmless.elim
  | findList | loadList | listIds | countItems => exact .inl fun k x => Iff.rfl

theorem Call.Harmless.items {call : Call} (harmless : call.Harmless) {backend : Backend}
    {now : Timestamp} (formed : backend.store.WellFormed)
    (unwrapped : Store.Unwrapped backend.store (backend.perform now call).2.store) :
    (∀ k x, (backend.perform now call).2.store.Has k x ↔ backend.store.Has k x) ∨
      ∃ list, (backend.perform now call).2.store.lists.get? list = none ∧
        ∀ k x, (backend.perform now call).2.store.Has k x ↔ backend.store.Has k x ∧ k ≠ list := by
  cases call with
  | store call => exact StoreCall.Harmless.items harmless formed unwrapped
  | publish | saveDocuments | deleteDocument | busStatus | clock | tell =>
    exact .inl fun k x => Iff.rfl

namespace Request

/-- Nothing is left of a request but to publish its events and to give this result. -/
inductive Ending (result : Result) : Job Result → Prop where
  | done : Ending result (.done result)
  | telling (topic : Topic) (list : ListId) (job : Job Result) (later : Ending result job) :
    Ending result (telling topic list job)

/-- What a call does to the stored items, and to the item in the hands of the request. -/
inductive Deed (later : Past) (request : Request) (before after : Store)
    (job job' : Job Result) : Prop where
  /-- Nothing; at most, the item is to be put back in its old list. -/
  | apart (has : ∀ k x, after.Has k x ↔ before.Has k x)
      (same : (carried job').map Item.card = (carried job).map Item.card)
  | dropped (list : ListId) (gone : after.lists.get? list = none)
      (has : ∀ k x, after.Has k x ↔ before.Has k x ∧ k ≠ list)
      (free : carried job = none) (free' : carried job' = none)
  | inserted (item : Item) (fresh : item.id = ⟨before.nextItem⟩)
      (next : after.nextItem = before.nextItem + 1)
      (has : ∀ k x, after.Has k x ↔ before.Has k x ∨ k = item.list ∧ x = item)
      (free : carried job = none) (free' : carried job' = none)
  | removed (list : ListId) (id : ItemId) (user : UserId)
      (asked : request = .deleteItem list id user) (ending : Ending (.ok .done) job')
      (has : ∀ k x, after.Has k x ↔ before.Has k x ∧ x.id ≠ id)
      (free : carried job = none) (free' : carried job' = none)
  | lifted (item : Item) (held : ∃ k, before.Holds k item.id)
      (has : ∀ k x, after.Has k x ↔ before.Has k x ∧ x.id ≠ item.id)
      (free : carried job = none) (carries : carried job' = some item)
  | put (item : Item)
      (has : ∀ k x, after.Has k x ↔ before.Has k x ∧ x.id ≠ item.id ∨ k = item.list ∧ x = item)
      (carries : carried job = some item) (free' : carried job' = none)
  | lost (item : Item) (origin destination : ListId) (user : UserId)
      (asked : request = .moveItem origin item.id destination user)
      (gone : later.deleted destination)
      (home : item.list = origin ∧ later.deleted origin ∨
        item.list ≠ origin ∧ later.initial origin item ∧ before.lists.get? item.list = none)
      (has : ∀ k x, after.Has k x ↔ before.Has k x)
      (carries : carried job = some item) (free' : carried job' = none)

/-- The next call of a request leaves it standing, and does one of its deeds. -/
structure Goes (later : Past) (request : Request) (job : Job Result) (backend : Backend)
    (now : Timestamp) : Prop where
  standing : Standing later request (job.step (Backend.treat now) backend).1
  deed : Deed later request backend.store (job.step (Backend.treat now) backend).2.store job
    (job.step (Backend.treat now) backend).1

theorem Calm.free {past : Past} {request : Request} {job : Job Result}
    (calm : Calm past request job) : carried job = none := by
  cases calm with
  | done => rfl
  | call call _ _ harmless =>
    unfold carried
    split
    next same =>
      cases same
      exact harmless.elim
    next => rfl

section

variable {past later : Past} {request : Request} {backend : Backend} {now : Timestamp}

theorem Calm.goes {job : Job Result} (calm : Calm later request job)
    (formed : backend.store.WellFormed)
    (unwrapped : Store.Unwrapped backend.store (job.step (Backend.treat now) backend).2.store) :
    Goes later request job backend now := by
  cases calm with
  | done result truthful => exact ⟨.calm (.done result truthful), .apart (fun _ _ => Iff.rfl) rfl⟩
  | call call next meanwhile harmless calm =>
    have answered := calm (backend.perform now call).1
    have free : carried (.call call next meanwhile) = none :=
      (Calm.call call next meanwhile harmless calm).free
    refine ⟨.calm answered, ?_⟩
    rcases harmless.items formed unwrapped with same | ⟨list, gone, has⟩
    · exact .apart same ((congrArg _ answered.free).trans (congrArg _ free.symm))
    · exact .dropped list gone has free answered.free

theorem goes_findList {list : ListId} {user : UserId} {fault : StorageFault → RequestFault}
    {next : Option ItemList → Job Result}
    (standing : Standing later request (next (backend.store.findList list user)))
    (free : carried (next (backend.store.findList list user)) = none) :
    Goes later request (storing (.findList list user) fault next) backend now :=
  ⟨standing, .apart (fun _ _ => Iff.rfl) (congrArg _ free)⟩

theorem goes_finding {list : ListId} {user : UserId} {next : ItemList → Job Result}
    (standing : ∀ found, Standing later request (next found))
    (free : ∀ found, carried (next found) = none) :
    Goes later request (finding list user next) backend now := by
  refine goes_findList ?_ ?_
  · cases backend.store.findList list user with
    | none => exact .calm (calm_failing _)
    | some found => exact standing found
  · cases backend.store.findList list user with
    | none => rfl
    | some found => exact free found

theorem goes_call {call : StoreCall} {next : call.Answer → Job Result} {meanwhile : Job Result}
    {answer : call.Answer} {changed : Store}
    (given : backend.store.perform now call = (answer, changed))
    (standing : Standing later request (next answer))
    (deed : Deed later request backend.store changed (.call (.store call) next meanwhile)
      (next answer)) :
    Goes later request (.call (.store call) next meanwhile) backend now := by
  have step : Program.step (Backend.treat now) (.call (.store call) next meanwhile) backend =
      (next answer, { backend with store := changed }) := by
    simp only [Program.step, Backend.treat, Backend.perform, given]
  constructor
  · rw [step]
    exact standing
  · rw [step]
    exact deed

theorem goes_adding {past : Past} {list asked : ListId} {user : UserId}
    {title description text about : String} {position : Int32}
    (leads : past.Leads (adding list text about position) backend.store
      ((adding list text about position).step (Backend.treat now) backend).2.store later) :
    Goes later (.addItem asked user title description) (adding list text about position) backend
      now := by
  cases there : backend.store.lists.get? list with
  | none =>
    have answer : backend.store.perform now (.insertItem list text about position) =
        (.error (.listNotFound list), backend.store) := by
      simp only [Store.perform, there]
    exact goes_call answer (.calm (calm_failing _)) (.apart (fun _ _ => Iff.rfl) rfl)
  | some found =>
    let item : Item := Item.new now ⟨backend.store.nextItem⟩ list text about position
    have answer : (backend.store.perform now (.insertItem list text about position)).1 =
        .ok item := by
      simp only [Store.perform, there, Store.insertItem, item]
    have has (k x) : (backend.store.perform now (.insertItem list text about position)).2.Has k x ↔
        backend.store.Has k x ∨ k = item.list ∧ x = item := by
      simp [Store.has_insertItem, there, item, Item.new]
    have next : (backend.store.perform now (.insertItem list text about position)).2.nextItem =
        backend.store.nextItem + 1 := by
      simp only [Store.perform, there, Store.insertItem]
    refine goes_call (Prod.ext answer rfl) ?_ (.inserted item rfl next has rfl rfl)
    refine .calm (calm_telling (.done _ ?_))
    exact (leads.stored list item ((has list item).mpr (.inr ⟨rfl, rfl⟩))).1

theorem goes_removing {list : ListId} {item : ItemId} {user : UserId}
    (formed : backend.store.WellFormed) :
    Goes later (.deleteItem list item user) (removing list item) backend now := by
  by_cases held : backend.store.Holds list item
  · have answer : (backend.store.perform now (.deleteItem list item)).1 = .ok true :=
      Store.perform_deleteItem_of_holds held
    refine goes_call (Prod.ext answer rfl) (.calm (calm_telling (.done _ trivial))) ?_
    refine .removed list item user rfl (.telling _ _ _ .done) (fun k x => ?_) rfl rfl
    exact Store.has_deleteItem_of_holds formed.unique held
  · have answer : backend.store.perform now (.deleteItem list item) = (.ok false, backend.store) :=
      Store.perform_deleteItem_of_not_holds held
    exact goes_call answer (.calm (calm_failing _)) (.apart (fun _ _ => Iff.rfl) rfl)

variable {past : Past} {origin destination : ListId} {user : UserId}

theorem standing_taking {item : ItemId} {source target : Option ItemList}
    (shown : ∀ found ∈ source, later.Shown origin found)
    (there : target.isSome → later.lists destination) :
    Standing later (.moveItem origin item destination user)
      (taking origin item destination source target) := by
  unfold taking
  rcases target with _ | target
  · exact .calm (calm_failing _)
  rcases source with _ | source
  · exact .calm (calm_failing _)
  cases here : source.item? item with
  | none =>
    simp only [here]
    exact .calm (calm_failing _)
  | some stored =>
    simp only [here]
    obtain ⟨member, rfl⟩ := ItemList.item?_some here
    obtain ⟨known, home⟩ := shown source rfl stored member
    exact .lifting origin destination user stored _ _ _ _ known home (there rfl) rfl rfl

theorem carried_taking {item : ItemId} (source target : Option ItemList) :
    carried (taking origin item destination source target) = none := by
  unfold taking
  rcases target with _ | target
  · rfl
  rcases source with _ | source
  · rfl
  cases here : source.item? item with
  | none => simp only [here]; rfl
  | some stored => simp only [here]; rfl

theorem shown_findList {store : Store}
    (stored : ∀ list item, store.Has list item →
      later.items item.card ∧ later.Belongs list item) :
    ∀ found ∈ store.findList origin user, later.Shown origin found := by
  intro found here item member
  obtain ⟨there, _⟩ := Store.findList_eq_some.mp here
  exact stored origin item ⟨found, there, member⟩

theorem there_findList {store : Store}
    (found : ∀ list, (store.lists.get? list).isSome → later.lists list) :
    (store.findList destination user).isSome → later.lists destination := by
  intro here
  obtain ⟨target, owned⟩ := Option.isSome_iff_exists.mp here
  exact found destination (Option.isSome_of_eq_some (Store.findList_eq_some.mp owned).1)

theorem goes_lifting {stored moved : Item} {fault failed : StorageFault → RequestFault}
    {missing : RequestFault} (formed : backend.store.WellFormed)
    (known : later.items stored.card) (home : later.Belongs origin stored)
    (there : later.lists destination) (same : moved.card = stored.card)
    (elsewhere : moved.list = destination)
    (found : ∀ list,
      ((backend.store.perform now (.deleteItem origin stored.id)).2.lists.get? list).isSome →
        later.lists list) :
    Goes later (.moveItem origin stored.id destination user)
      (lifting origin stored moved fault failed missing) backend now := by
  have number : moved.id = stored.id := congrArg Card.id same
  by_cases held : backend.store.Holds origin stored.id
  · have answer : (backend.store.perform now (.deleteItem origin stored.id)).1 = .ok true :=
      Store.perform_deleteItem_of_holds held
    have left : later.lists origin := by
      obtain ⟨_, ⟨source, before, _⟩, _⟩ := held
      refine found origin ?_
      rw [Store.get?_deleteItem, if_pos rfl, before]
      rfl
    refine goes_call (Prod.ext answer rfl)
      (.placing origin destination user stored moved failed known home left there same elsewhere) ?_
    refine .lifted moved ⟨origin, number ▸ held⟩ (fun k x => ?_) rfl rfl
    rw [number]
    exact Store.has_deleteItem_of_holds formed.unique held
  · have answer : backend.store.perform now (.deleteItem origin stored.id) =
        (.ok false, backend.store) := Store.perform_deleteItem_of_not_holds held
    exact goes_call answer (.calm (calm_failing _)) (.apart (fun _ _ => Iff.rfl) rfl)

theorem goes_put {item : Item} {next : Except StorageFault Unit → Job Result}
    {meanwhile : Job Result} (formed : backend.store.WellFormed)
    (home : (backend.store.lists.get? item.list).isSome)
    (calm : Calm later request (next (.ok ()))) :
    Goes later request (.call (.store (.putItem item)) next meanwhile) backend now := by
  have answer : (backend.store.perform now (.putItem item)).1 = .ok () := by
    obtain ⟨target, there⟩ := Option.isSome_iff_exists.mp home
    simp only [Store.perform, there]
  refine goes_call (Prod.ext answer rfl) (.calm calm) ?_
  exact .put item (fun k x => Store.has_putItem formed.unique home) rfl calm.free

theorem goes_placing {stored moved : Item} {failed : StorageFault → RequestFault}
    (formed : backend.store.WellFormed) (known : later.items stored.card)
    (home : later.Belongs origin stored) (left : later.lists origin)
    (same : moved.card = stored.card) (elsewhere : moved.list = destination)
    (missed : backend.store.lists.get? destination = none → later.deleted destination) :
    Goes later (.moveItem origin stored.id destination user)
      (placing origin stored moved failed) backend now := by
  cases there : backend.store.lists.get? moved.list with
  | none =>
    have answer := Store.perform_putItem_of_none backend.store now there
    rw [elsewhere] at there
    refine goes_call answer (.restoring origin destination user stored _ known home left
      (missed there)) (.apart (fun _ _ => Iff.rfl) ?_)
    exact congrArg some same.symm
  | some target =>
    refine goes_put formed (Option.isSome_of_eq_some there) ?_
    exact calm_telling (calm_telling (.done _ trivial))

theorem goes_restoring {stored : Item} {failed : RequestFault} (formed : backend.store.WellFormed)
    (home : later.Belongs origin stored)
    (gone : later.deleted destination)
    (missed : backend.store.lists.get? origin = none → later.deleted origin) :
    Goes later (.moveItem origin stored.id destination user) (restoring stored failed) backend
      now := by
  have telling (notice : Notice) : Calm later (.moveItem origin stored.id destination user)
      (calling (.tell notice) fun _ => failing failed) :=
    .call _ _ _ trivial fun _ => calm_failing _
  cases there : backend.store.lists.get? stored.list with
  | none =>
    have answer := Store.perform_putItem_of_none backend.store now there
    refine goes_call answer (.calm (telling _)) ?_
    refine .lost stored origin destination user rfl gone ?_ (fun _ _ => Iff.rfl) rfl rfl
    by_cases named : stored.list = origin
    · exact .inl ⟨named, missed (named ▸ there)⟩
    · exact .inr ⟨named, home.resolve_left named, there⟩
  | some source =>
    exact goes_put formed (Option.isSome_of_eq_some there) (telling _)

/-- Wherever a request stands, its next call leaves it standing and does one of its deeds. -/
theorem Standing.goes {job : Job Result} (standing : Standing past request job)
    (formed : backend.store.WellFormed)
    (unwrapped : Store.Unwrapped backend.store (job.step (Backend.treat now) backend).2.store)
    (leads : past.Leads job backend.store (job.step (Backend.treat now) backend).2.store later) :
    Goes later request job backend now := by
  cases standing with
  | calm calm => exact (calm.mono leads.toUpto).goes formed unwrapped
  | looking => exact goes_finding (fun found => .adding ..) fun _ => rfl
  | adding => exact goes_adding leads
  | checking => exact goes_finding (fun found => .removing ..) fun _ => rfl
  | removing => exact goes_removing formed
  | seeking origin item destination user fault =>
    refine goes_call rfl ?_ (.apart (fun _ _ => Iff.rfl) rfl)
    exact .seekingSecond origin item destination user fault _ (shown_findList leads.stored)
  | seekingBack origin item destination user fault =>
    refine goes_findList ?_ rfl
    exact .seekingFirst origin item destination user fault _ (there_findList leads.found)
  | seekingSecond origin item destination user fault source shown =>
    exact goes_findList (standing_taking (fun found here => leads.shown (shown found here))
      (there_findList leads.found)) (carried_taking source _)
  | seekingFirst origin item destination user fault target there =>
    refine goes_findList (standing_taking (shown_findList leads.stored) fun found => ?_)
      (carried_taking _ target)
    exact leads.lists _ (there found)
  | lifting origin destination user stored moved fault failed missing known home there same
      elsewhere =>
    exact goes_lifting formed (leads.items _ known) (leads.belongs home) (leads.lists _ there) same
      elsewhere leads.found
  | placing origin destination user stored moved failed known home left there same elsewhere =>
    exact goes_placing formed (leads.items _ known) (leads.belongs home) (leads.lists _ left) same
      elsewhere (leads.missed nofun _ there)
  | restoring origin destination user stored failed known home left gone =>
    exact goes_restoring formed (leads.belongs home) (leads.deleted _ gone)
      (leads.missed nofun _ left)

end

end Request

end ListKeeper
