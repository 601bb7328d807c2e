import ListKeeper.Proofs.Request.Effect
import ListKeeper.Proofs.Store.Items

namespace ListKeeper.Store

/-- The events of a request tell of every list that it has changed. -/
structure Announced (before after : Store) (events : List Envelope) : Prop where
  stored : ∀ k list, after.lists.get? k = some list →
    before.lists.get? k = some list ∨ ⟨.listUpdated, .list k⟩ ∈ events ∨
      ⟨.listCreated, .list k⟩ ∈ events ∧ list.itemCount = list.countOfItems
  gone : ∀ k, (before.lists.get? k).isSome →
    (after.lists.get? k).isSome ∨ ⟨.listDeleted, .list k⟩ ∈ events
  deleted : ∀ k, ⟨.listDeleted, .list k⟩ ∈ events →
    (before.lists.get? k).isSome ∧ after.lists.get? k = none
  fresh : ∀ k, (after.lists.get? k).isSome →
    (before.lists.get? k).isSome ∨ ¬UsedUp k.number before.nextList

variable {store : Store} {now : Timestamp}

theorem announced_refl (store : Store) : store.Announced store [] where
  stored _ _ found := Or.inl found
  gone _ found := Or.inl found
  deleted _ member := absurd member List.not_mem_nil
  fresh _ found := Or.inl found

theorem announced_change {after : Store} {list : ListId} {change : ItemList → ItemList}
    (lists : ∀ k, after.lists.get? k =
      if k = list then (store.lists.get? k).map change else store.lists.get? k) :
    store.Announced after [⟨.listUpdated, .list list⟩] := by
  have some_iff (k) : (after.lists.get? k).isSome = (store.lists.get? k).isSome := by
    rw [lists]
    split <;> simp
  refine ⟨fun k found there => ?_, fun k there => ?_, fun k member => ?_, fun k there => ?_⟩
  · by_cases here : k = list
    · subst here
      exact Or.inr (Or.inl (List.mem_singleton_self _))
    · rw [lists, if_neg here] at there
      exact Or.inl there
  · exact Or.inl ((some_iff k).trans there)
  · cases List.mem_singleton.mp member
  · exact Or.inl ((some_iff k).symm.trans there)

theorem announced_createList (user : UserId) (name : String)
    (unwrapped : Unwrapped store (store.perform now (.createList user name)).2) :
    store.Announced (store.perform now (.createList user name)).2
      [⟨.listCreated, .list ⟨store.nextList⟩⟩] := by
  have order : store.nextList ≤ store.nextList + 1 := unwrapped.1
  refine ⟨fun k found there => ?_, fun k there => ?_, fun k member => ?_, fun k there => ?_⟩
  · rw [get?_createList] at there
    split at there
    next here =>
      subst here
      obtain rfl := Option.some.inj there
      exact Or.inr (Or.inr ⟨List.mem_singleton_self _, rfl⟩)
    next => exact Or.inl there
  · left
    rw [get?_createList]
    split
    · rfl
    · exact there
  · cases List.mem_singleton.mp member
  · rw [get?_createList] at there
    split at there
    next here =>
      subst here
      exact Or.inr fun used => Int32.lt_irrefl (used.lt order)
    next => exact Or.inl there

theorem announced_deleteList {list : ListId} {user : UserId}
    (owned : (store.findList list user).isSome) :
    store.Announced (store.perform now (.deleteList list user)).2
      [⟨.listDeleted, .list list⟩] := by
  refine ⟨fun k found there => ?_, fun k there => ?_, fun k member => ?_, fun k there => ?_⟩
  · rw [get?_deleteList] at there
    split at there
    · cases there
    · exact Or.inl there
  · by_cases here : k = list
    · subst here
      exact Or.inr (List.mem_singleton_self _)
    · left
      rw [get?_deleteList, if_neg fun both => here both.1]
      exact there
  · obtain ⟨_, ⟨⟩⟩ := List.mem_singleton.mp member
    rw [get?_deleteList, if_pos ⟨rfl, owned⟩]
    obtain ⟨found, owned⟩ := Option.isSome_iff_exists.mp owned
    exact ⟨Option.isSome_iff_exists.mpr ⟨found, (findList_eq_some.mp owned).1⟩, rfl⟩
  · rw [get?_deleteList] at there
    split at there
    · cases there
    · exact Or.inl there

theorem announced_move {later : Timestamp} {origin : ListId} {item : ItemId} {stored moved : Item}
    (unique : store.Unique) (has : store.Has origin stored) (number : stored.id = item)
    (same : moved.id = item) (apart : origin ≠ moved.list)
    (home : (store.lists.get? moved.list).isSome) :
    store.Announced
      ((store.perform now (.deleteItem origin item)).2.perform later (.putItem moved)).2
      [⟨.listUpdated, .list origin⟩, ⟨.listUpdated, .list moved.list⟩] := by
  have home' : ((store.perform now (.deleteItem origin item)).2.lists.get? moved.list).isSome := by
    rw [get?_deleteItem, if_neg (Ne.symm apart)]
    exact home
  have some_iff (k) : (((store.perform now (.deleteItem origin item)).2.perform later
      (.putItem moved)).2.lists.get? k).isSome = (store.lists.get? k).isSome := by
    rw [get?_putItem _ _ _ home', get?_deleteItem]
    split <;> split <;> simp
  refine ⟨fun k found there => ?_, fun k there => ?_, fun k member => ?_, fun k there => ?_⟩
  · by_cases first : k = origin
    · subst first
      exact Or.inr (Or.inl (List.mem_cons_self ..))
    by_cases second : k = moved.list
    · subst second
      exact Or.inr (Or.inl (List.mem_cons_of_mem _ (List.mem_singleton_self _)))
    left
    rw [get?_putItem _ _ _ home', if_neg second, get?_deleteItem, if_neg first] at there
    obtain ⟨before, there', rfl⟩ := Option.map_eq_some_iff.mp there
    have absent : ∀ x ∈ before.items, x.id ≠ moved.id := fun x member same' =>
      first (unique.list_eq ⟨before, there', member⟩ has (same'.trans (same.trans number.symm)))
    rw [ItemList.without_of_absent later absent]
    exact there'
  · exact Or.inl ((some_iff k).trans there)
  · rcases List.mem_cons.mp member with differs | member
    · cases differs
    · cases List.mem_singleton.mp member
  · exact Or.inl ((some_iff k).symm.trans there)

theorem Effect.announced {request : Request} {result : Request.Result} {after : Store}
    {events : List Envelope} (effect : store.Effect request result after events)
    (unique : store.Unique) (unwrapped : Unwrapped store after) :
    store.Announced after events := by
  cases effect with
  | refused => exact announced_refl store
  | created user name text now => exact announced_createList user text unwrapped
  | shown => exact announced_refl store
  | renamed list user name text now =>
    exact announced_change fun k => store.get?_renameList now list k text
  | deleted list user now owned => exact announced_deleteList owned
  | added list user title description text about now found =>
    exact announced_change fun k =>
      store.get?_insertItem now list k text about found.nextPosition
  | removed list item user now =>
    exact announced_change fun k => store.get?_deleteItem now list k item
  | moved origin item destination user now later source target stored apart owned other here =>
    obtain ⟨member, number⟩ := ItemList.item?_some here
    have there := (findList_eq_some.mp other).1
    generalize joins : ({ stored with list := destination, position := target.nextPosition } : Item) =
      moved
    have goes : destination = moved.list := by rw [← joins]
    have same : moved.id = item := by rw [← joins, ← number]
    rw [goes] at apart there ⊢
    exact announced_move unique ⟨source, (findList_eq_some.mp owned).1, member⟩ number same apart
      (Option.isSome_iff_exists.mpr ⟨target, there⟩)
  | reindexed =>
    refine ⟨fun _ _ found => Or.inl found, fun _ found => Or.inl found, fun k member => ?_,
      fun _ found => Or.inl found⟩
    cases List.mem_singleton.mp member

/-- A list that is told of as created has a number that was not given out before. -/
theorem Effect.not_usedUp_of_created {request : Request} {result : Request.Result} {after : Store}
    {events : List Envelope} (effect : store.Effect request result after events)
    (unwrapped : Unwrapped store after) {k : ListId} (told : ⟨.listCreated, .list k⟩ ∈ events) :
    ¬UsedUp k.number store.nextList := by
  cases effect with
  | created user name text now =>
    obtain ⟨_, ⟨⟩⟩ := List.mem_singleton.mp told
    exact fun used => Int32.lt_irrefl (used.lt unwrapped.1)
  | refused | shown | renamed | deleted | added | removed | moved | reindexed => simp at told

/-- An item that is nowhere stays nowhere: no request stores an item that it has not found. -/
theorem Effect.free {request : Request} {result : Request.Result} {after : Store}
    {events : List Envelope} (effect : store.Effect request result after events)
    (formed : store.WellFormed) (unwrapped : Unwrapped store after) {id : ItemId}
    (free : ∀ list, ¬store.Holds list id) (used : UsedUp id.number store.nextItem) :
    ∀ list, ¬after.Holds list id := by
  cases effect with
  | refused | shown | reindexed => exact free
  | created | renamed | deleted | added | removed =>
    exact formed.free_perform unwrapped free used (by simp)
  | moved origin item destination user now later source target stored apart owned other here =>
    obtain ⟨member, number⟩ := ItemList.item?_some here
    have held : store.Has origin stored := ⟨source, (findList_eq_some.mp owned).1, member⟩
    have quiet : Unwrapped store (store.perform now (.deleteItem origin item)).2 :=
      unwrapped_perform (by simp) (by simp) (by simp)
    have taken := formed.free_perform quiet free used (by simp)
    have still : UsedUp id.number (store.perform now (.deleteItem origin item)).2.nextItem :=
      used.mono quiet.2
    refine (formed.perform _ _ quiet).free_perform (unwrapped_putItem _) taken still ?_
    rintro _ ⟨⟩ same
    exact free origin ⟨stored, held, same⟩

end ListKeeper.Store
