import ListKeeper.Proofs.Moving.Basic
import ListKeeper.Proofs.Store.Ordered

namespace ListKeeper

namespace ItemList

variable {list : ItemList} {item : Item}

theorem itemCount_without (list : ItemList) (now : Timestamp) (id : ItemId) :
    (list.without now id).itemCount = list.itemCount := by
  unfold without
  split <;> rfl

/-- A list counts as many items as before when one has been taken out and put back. -/
theorem countOfItems_joined_without (held : (list.item? item.id).isSome) (now later : Timestamp) :
    ((list.without now item.id).joined later item).countOfItems = list.countOfItems := by
  obtain ⟨found, first⟩ := Option.isSome_iff_exists.mp held
  obtain ⟨member, same⟩ := item?_some first
  have fewer := List.length_eraseP_of_mem (p := fun other => other.id == item.id) member
    (by simp [same])
  have some : 0 < list.items.length := List.length_pos_of_mem member
  have length : ((list.without now item.id).joined later item).items.length = list.items.length := by
    rw [joined, (sortBy_perm _).length_eq, List.length_append, items_without, fewer,
      List.length_singleton]
    omega
  rw [countOfItems, countOfItems, length]

/-- A list has the document that it had before one of its items was taken out and put back. -/
theorem ofList_joined_without (distinct : (list.items.map Item.id).Nodup)
    (here : list.item? item.id = some item) (now later : Timestamp) :
    Document.ofList ((list.without now item.id).joined later item) = Document.ofList list := by
  have order := ordered_joined_without distinct here now later
  have id : ((list.without now item.id).joined later item).id = list.id := list.without_id now _
  have owner : ((list.without now item.id).joined later item).owner = list.owner :=
    list.without_owner now _
  have name : ((list.without now item.id).joined later item).name = list.name :=
    list.without_name now _
  rw [Document.ofList, order, id, owner, name, Document.ofList]

end ItemList

namespace Moving

open Pipeline (Wired process_handled)

namespace Leg

/-- A list of the store as it is when the move has put its item back. -/
def whole : Leg → ItemList → ItemList
  | .out stored, list => list.joined default stored
  | _, list => list

/-- The item is still in the list as it has been read. -/
def Keeps : Leg → ItemList → Prop
  | .seen stored, list => list.item? stored.id = some stored
  | _, _ => True

/-- The item names the origin when it is there, and while it is out no list has it. -/
def Carries (origin : ListId) (item : ItemId) (store : Store) : Leg → Prop
  | .before => ∀ x, store.Has origin x → x.id = item → x.list = origin
  | .seen stored => stored.list = origin ∧ stored.id = item
  | .out stored => stored.list = origin ∧ UsedUp origin.number store.nextList ∧
      (∀ list, ¬store.Holds list stored.id) ∧ UsedUp stored.id.number store.nextItem
  | .back _ => True

theorem whole_setItemCount (leg : Leg) (list : ItemList) (count : Int32) :
    leg.whole { list with itemCount := count } = { leg.whole list with itemCount := count } := by
  cases leg <;> rfl

theorem keeps_setItemCount (leg : Leg) (list : ItemList) (count : Int32) :
    leg.Keeps { list with itemCount := count } ↔ leg.Keeps list := by
  cases leg <;> rfl

variable {origin : ListId} {item : ItemId} {store after : Store} {leg : Leg}

theorem Carries.request (carries : leg.Carries origin item store) {request : Request}
    {result : Request.Result} {events : List Envelope}
    (effect : store.Effect request result after events) (formed : store.WellFormed)
    (unwrapped : Store.Unwrapped store after) : leg.Carries origin item after := by
  cases leg with
  | before =>
    intro x has same
    exact (effect.has_or_named unwrapped origin x has).elim (carries x · same) id
  | out stored =>
    obtain ⟨home, given, free, used⟩ := carries
    exact ⟨home, given.mono unwrapped.1, effect.free formed unwrapped free used,
      used.mono unwrapped.2⟩
  | seen | back => exact carries

theorem Carries.setItemCount (carries : leg.Carries origin item store) (now : Timestamp)
    (list : ListId) (count : Int32) :
    leg.Carries origin item (store.perform now (.setItemCount list count)).2 := by
  cases leg with
  | before => exact fun x has => carries x (Store.has_setItemCount.mp has)
  | out stored =>
    obtain ⟨home, given, free, used⟩ := carries
    refine ⟨home, ?_, ?_, ?_⟩
    · rwa [Store.nextList_perform (by simp)]
    · rintro k ⟨x, has, same⟩
      exact free k ⟨x, Store.has_setItemCount.mp has, same⟩
    · rwa [Store.nextItem_perform (by simp) (by simp)]
  | seen | back => exact carries

end Leg

/-- The count and the document of the origin are those of the whole list, or an event is on its way
that brings them up to date. Each is only claimed on a condition: that it is known not to have been
taken while the item was out. -/
structure Follows (batch : Nat) (origin : ListId) (item : ItemId) (leg : Leg) (sure known : Prop)
    (crew : Crew Call.interface Backend) : Prop where
  workers : crew.workers = Pipeline.crew batch
  wired : Wired crew.state.bus
  formed : crew.state.store.WellFormed
  carries : leg.Carries origin item crew.state.store
  spared : Names (crew.state.bus.inTransit 2) origin →
    crew.state.store.lists.get? origin = none ∧ UsedUp origin.number crew.state.store.nextList
  counted : sure → ∀ list, crew.state.store.lists.get? origin = some list →
    (leg.whole list).itemCount = (leg.whole list).countOfItems ∨
      Names (crew.state.bus.inTransit 0) origin
  indexed : known → ∀ list, crew.state.store.lists.get? origin = some list →
    leg.Keeps list ∧ crew.state.index.document? (Document.keyOf origin) =
      some (Document.ofList (leg.whole list)) ∨ Names (crew.state.bus.inTransit 1) origin

namespace Follows

variable {batch : Nat} {origin : ListId} {item : ItemId} {leg : Leg} {sure known : Prop}
  {callback : Callback} {crew : Crew Call.interface Backend}

/-- Requests announce what they change. -/
theorem request (follows : Follows batch origin item leg sure known crew) (request : Request)
    (now : Timestamp)
    (unwrapped : Store.Unwrapped crew.state.store (crew.state.run now request.job).state.store)
    (undropped : (crew.state.run now request.job).state.bus.dropped = crew.state.bus.dropped) :
    Follows batch origin item leg sure known
      { crew with state := (crew.state.run now request.job).state } := by
  obtain ⟨result, store, events, effect, rfl, index, wired, delivered⟩ :=
    follows.wired.request request now undropped
  have announced := effect.announced follows.formed.unique unwrapped
  refine ⟨follows.workers, wired, effect.formed follows.formed unwrapped,
    follows.carries.request effect follows.formed unwrapped,
    fun names => announced.spared follows.formed.numbered unwrapped follows.spared
      (delivered.all.onlyRemoved origin names),
    fun known list there => ?_, fun known list there => ?_⟩
  · rcases announced.stored origin list there with before | updated | ⟨created, counted⟩
    · exact (follows.counted known list before).imp_right (delivered.names (by decide))
    · exact Or.inr (delivered.told (by decide) updated (by decide))
    · left
      cases leg with
      | out stored =>
        exact absurd follows.carries.2.1 (effect.not_usedUp_of_created unwrapped created)
      | before | seen | back => exact counted
  · rw [index]
    rcases announced.stored origin list there with before | updated | ⟨created, _⟩
    · exact (follows.indexed known list before).imp_right (delivered.names (by decide))
    · exact Or.inr (delivered.told (by decide) updated (by decide))
    · exact Or.inr (delivered.told (by decide) created (by decide))

/-- Events move on, or are taken by workers that do not care for them. -/
theorem pass (follows : Follows batch origin item leg sure known crew) {bus : Bus}
    (wired : Wired bus) {sure' known' : Prop} (counted : sure' → sure) (indexed : known' → known)
    (still : ∀ id < 2, Names (crew.state.bus.inTransit id) origin → Names (bus.inTransit id) origin)
    (fewer : Names (bus.inTransit 2) origin → Names (crew.state.bus.inTransit 2) origin) :
    Follows batch origin item leg sure' known'
      { crew with state := { crew.state with bus } } where
  workers := follows.workers
  wired := wired
  formed := follows.formed
  carries := follows.carries
  spared names := follows.spared (fewer names)
  counted ok list there := (follows.counted (counted ok) list there).imp_right (still 0 (by decide))
  indexed ok list there := (follows.indexed (indexed ok) list there).imp_right (still 1 (by decide))

theorem weaken (follows : Follows batch origin item leg sure known crew) {known' : Prop}
    (less : known' → known) : Follows batch origin item leg sure known' crew :=
  { follows with indexed := fun ok => follows.indexed (less ok) }

/-- The worker that counts items does so for one list. -/
theorem recount (follows : Follows batch origin item leg sure known crew) {bus : Bus}
    (wired : Wired bus) {event : Envelope} (now : Timestamp) {list : ListId}
    (taken : Taken crew.state.bus.inTransit bus.inTransit 0 event)
    (about : event.payload.list? = some list) {sure' : Prop}
    (recounted : sure' → if list = origin then ∀ list, leg.whole list = list else sure) :
    Follows batch origin item leg sure' known ⟨crew.workers, { crew.state with
      store := (crew.state.store.perform now (.setItemCount list
        ((crew.state.store.lists.get? list).elim 0 ItemList.countOfItems))).2
      bus }⟩ := by
  generalize counts : (crew.state.store.lists.get? list).elim 0 ItemList.countOfItems = count
  have lists := crew.state.store.get?_setItemCount now list origin count
  have next : (crew.state.store.perform now (.setItemCount list count)).2.nextList =
      crew.state.store.nextList := Store.nextList_perform (by simp)
  have unwrapped : Store.Unwrapped crew.state.store
      (crew.state.store.perform now (.setItemCount list count)).2 :=
    Store.unwrapped_perform (by simp) (by simp) (by simp)
  refine ⟨follows.workers, wired, follows.formed.perform _ _ unwrapped,
    follows.carries.setItemCount now list count, fun names => ?_, fun ok found there => ?_,
    fun ok found there => ?_⟩
  · obtain ⟨absent, used⟩ := follows.spared (taken.names_of_later names)
    refine ⟨?_, next ▸ used⟩
    rw [lists, absent]
    split <;> rfl
  · have before := recounted ok
    rw [lists] at there
    by_cases here : list = origin
    · subst here
      rw [if_pos rfl] at there before
      obtain ⟨old, stored, rfl⟩ := Option.map_eq_some_iff.mp there
      rw [stored] at counts
      rw [before]
      exact Or.inl counts.symm
    · rw [if_neg (Ne.symm here)] at there
      rw [if_neg here] at before
      refine (follows.counted before found there).imp_right fun names => ?_
      refine (taken.names names).resolve_left fun same => here ?_
      exact Option.some.inj (about.symm.trans same)
  · rw [taken.others 1 (by decide)]
    rw [lists] at there
    split at there
    · obtain ⟨old, stored, rfl⟩ := Option.map_eq_some_iff.mp there
      rw [leg.keeps_setItemCount, leg.whole_setItemCount]
      exact follows.indexed ok old stored
    · exact follows.indexed ok found there

/-- Workers bring the count and the document up to date. What they take from the list while the
item is out does not count. -/
theorem process (follows : Follows batch origin item leg sure known crew) (index : Nat)
    (now : Timestamp) {sure' known' : Prop}
    (recounted : sure' →
      if (handling? crew (.process index now)).any (counts origin) then
        ∀ list, leg.whole list = list
      else sure)
    (reindexed : known' →
      if (handling? crew (.process index now)).any (indexes origin) then
        ∀ list, crew.state.store.lists.get? origin = some list →
          leg.whole list = list ∧ leg.Keeps list
      else known) :
    Follows batch origin item leg sure' known' (Pipeline.process callback crew index now) := by
  rcases process_handled follows.workers follows.wired index with
    ⟨none, idle⟩ | ⟨event, bus, store, documents, next, wired, taken, handled, done⟩
  · simp only [handling?, none, Option.map_none, Option.any_none] at recounted reindexed
    rw [idle]
    exact follows.pass follows.wired recounted reindexed (fun _ _ => id) id
  simp only [handling?, next, Option.map_some, Option.any_some] at recounted reindexed
  rw [done]
  have spared (names : Names (bus.inTransit 2) origin) := follows.spared (taken.names_of_later names)
  have elsewhere {id} (other : event.payload.list? ≠ some origin)
      (names : Names (crew.state.bus.inTransit id) origin) : Names (bus.inTransit id) origin := by
    by_cases here : id = index
    · subst here
      exact (taken.names names).resolve_left other
    · rwa [taken.others id here]
  cases handled with
  | counted _ list about =>
    simp only [counts, decide_eq_true_eq, about, Option.some.injEq] at recounted
    have follows' := follows.recount wired now taken about recounted
    exact { follows' with indexed := fun ok => follows'.indexed (reindexed ok) }
  | saved =>
    simp only [indexes, decide_eq_true_eq] at reindexed
    refine ⟨follows.workers, wired, follows.formed, follows.carries, spared, fun ok list there => ?_,
      fun ok list there => ?_⟩
    · rw [taken.others 0 (by decide)]
      exact follows.counted (recounted ok) list there
    have current := reindexed ok
    by_cases here : event.payload.list? = some origin
    · rw [if_pos here] at current
      obtain ⟨whole, keeps⟩ := current list there
      rw [whole]
      refine Or.inl ⟨keeps, Index.document?_of_mem follows.formed.keyed _ ?_ there⟩
      rw [here]
      exact List.mem_singleton_self _
    · rw [if_neg here] at current
      rw [Index.document?_of_not_mem follows.formed.keyed _ (by simpa using here)]
      exact (follows.indexed current list there).imp_right (elsewhere here)
  | removed _ list about =>
    refine ⟨follows.workers, wired, follows.formed, follows.carries, spared, fun ok found there => ?_,
      fun ok found there => ?_⟩
    · rw [taken.others 0 (by decide)]
      exact follows.counted (recounted ok) found there
    have other : Document.keyOf origin ≠ Document.keyOf list := by
      intro same
      obtain rfl := Document.keyOf_injective same
      have gone := (follows.spared (taken.named about)).1
      rw [gone] at there
      cases there
    rw [taken.others 1 (by decide), Index.document?_delete, if_neg other]
    exact follows.indexed (reindexed ok) found there
  | rebuilt _ empty ids all =>
    simp only [indexes, empty, decide_true, ↓reduceIte] at reindexed
    refine ⟨follows.workers, wired, follows.formed, follows.carries, spared, fun ok list there => ?_,
      fun ok list there => ?_⟩
    · rw [taken.others 0 (by decide)]
      exact follows.counted (recounted ok) list there
    obtain ⟨whole, keeps⟩ := reindexed ok list there
    rw [whole]
    refine Or.inl ⟨keeps, Index.document?_of_mem follows.formed.keyed _ (all origin ?_) there⟩
    exact Option.isSome_iff_exists.mpr ⟨list, there⟩
  | misdirected _ named =>
    simp only [indexes, decide_eq_true_eq, if_neg named] at reindexed
    refine follows.pass wired recounted reindexed (fun id inside => ?_) taken.names_of_later
    rw [taken.others id (Nat.ne_of_lt (Nat.lt_succ_of_lt inside))]
    exact fun names => names
  | ignored _ single _ about =>
    have other : event.payload.list? ≠ some origin := by simp [about]
    have uncounted : counts origin (index, event) = false := by
      unfold counts
      split <;> simp_all
    have unindexed : indexes origin (index, event) = false := by
      unfold indexes
      split <;> simp_all
    rw [uncounted] at recounted
    rw [unindexed] at reindexed
    exact follows.pass wired recounted reindexed (fun _ _ => elsewhere other) taken.names_of_later

theorem drain (follows : Follows batch origin item leg sure known crew) (task : Nat) :
    Follows batch origin item leg sure known
      { crew with state := { crew.state with bus := (crew.state.bus.drainStep task).2 } } := by
  obtain ⟨wired, transit⟩ := follows.wired.drainStep task
  refine follows.pass wired id id (fun channel inside names => ?_) fun names => ?_
  · rwa [transit channel (Nat.lt_trans inside (by decide))]
  · rwa [transit 2 (by decide)] at names

variable {user : UserId} {source : ItemList} {stored : Item} {now : Timestamp}

theorem read (follows : Follows batch origin item .before sure known crew)
    (found : crew.state.store.findList origin user = some source)
    (here : source.item? item = some stored) :
    Follows batch origin item (.seen stored) sure known crew := by
  have there := (Store.findList_eq_some.mp found).1
  obtain ⟨member, same⟩ := ItemList.item?_some here
  have keeps : source.item? stored.id = some stored := same ▸ here
  refine ⟨follows.workers, follows.wired, follows.formed,
    ⟨follows.carries stored ⟨source, there, member⟩ same, same⟩, follows.spared, follows.counted,
    fun ok list there' => ?_⟩
  obtain rfl : source = list := Option.some.inj (there.symm.trans there')
  exact (follows.indexed ok source there).imp_left fun ⟨_, current⟩ => ⟨keeps, current⟩

theorem take (follows : Follows batch origin item (.seen stored) sure known crew)
    (held : crew.state.store.Holds origin item) :
    Follows batch origin item (.out stored) sure known ⟨crew.workers, { crew.state with
      store := (crew.state.store.perform now (.deleteItem origin item)).2 }⟩ := by
  obtain ⟨home, rfl⟩ := follows.carries
  obtain ⟨found, there, present⟩ := Store.holds_iff.mp held
  have nextList : (crew.state.store.perform now (.deleteItem origin stored.id)).2.nextList =
      crew.state.store.nextList := Store.nextList_perform (by simp)
  have nextItem : (crew.state.store.perform now (.deleteItem origin stored.id)).2.nextItem =
      crew.state.store.nextItem := Store.nextItem_perform (by simp) (by simp)
  have lists := crew.state.store.get?_deleteItem now origin origin stored.id
  rw [if_pos rfl, there, Option.map_some] at lists
  have carries : (Leg.out stored).Carries origin stored.id
      (crew.state.store.perform now (.deleteItem origin stored.id)).2 := by
    refine ⟨home, nextList ▸ follows.formed.listNumbers origin found there,
      Store.free_deleteItem follows.formed.unique held, nextItem ▸ ?_⟩
    obtain ⟨x, first⟩ := Option.isSome_iff_exists.mp present
    obtain ⟨member, same⟩ := ItemList.item?_some first
    exact same ▸ follows.formed.itemNumbers origin found there x member
  have formed := follows.formed.perform now (.deleteItem origin stored.id)
    (Store.unwrapped_perform (by simp) (by simp) (by simp))
  refine ⟨follows.workers, follows.wired, formed, carries, fun names => ?_,
    fun ok list there' => ?_, fun ok list there' => ?_⟩
  · have gone := (follows.spared names).1
    rw [there] at gone
    cases gone
  · obtain rfl := Option.some.inj (lists.symm.trans there')
    refine (follows.counted ok found there).imp_left fun current => ?_
    rw [Leg.whole, ItemList.countOfItems_joined_without present]
    exact (found.itemCount_without now stored.id).trans current
  · obtain rfl := Option.some.inj (lists.symm.trans there')
    refine (follows.indexed ok found there).imp_left fun current => ⟨trivial, ?_⟩
    have distinct := follows.formed.distinct origin found there
    rw [Leg.whole, ItemList.ofList_joined_without distinct current.1]
    exact current.2

theorem putBack (follows : Follows batch origin item (.out stored) sure known crew)
    (there : (crew.state.store.lists.get? origin).isSome) :
    Follows batch origin item (.back stored) sure known ⟨crew.workers, { crew.state with
      store := (crew.state.store.perform now (.putItem stored)).2 }⟩ := by
  obtain ⟨rfl, given, free, used⟩ := follows.carries
  have lists : (crew.state.store.perform now (.putItem stored)).2.lists.get? stored.list = _ :=
    Store.get?_putItem_of_free free there stored.list
  rw [if_pos rfl] at lists
  have formed := follows.formed.perform now (.putItem stored) (Store.unwrapped_putItem stored)
  refine ⟨follows.workers, follows.wired, formed, trivial, fun names => ?_,
    fun ok list there' => ?_, fun ok list there' => ?_⟩
  · have gone := (follows.spared names).1
    rw [gone] at there
    cases there
  · obtain ⟨before, there, rfl⟩ := Option.map_eq_some_iff.mp (lists.symm.trans there')
    exact follows.counted ok before there
  · obtain ⟨before, there, rfl⟩ := Option.map_eq_some_iff.mp (lists.symm.trans there')
    exact follows.indexed ok before there

end Follows

end Moving

end ListKeeper
