import ListKeeper.Proofs.Store.Sound

namespace ListKeeper

/-- What never changes about an item. -/
structure Card where
  id : ItemId
  title : String
  description : String
  createdAt : Timestamp
  deriving DecidableEq

def Item.card (item : Item) : Card :=
  ⟨item.id, item.title, item.description, item.createdAt⟩

namespace Store

/-- The list of a number is stored and has an item of this number. -/
def Holds (store : Store) (list : ListId) (id : ItemId) : Prop :=
  ∃ item, store.Has list item ∧ item.id = id

/-- Exactly one list has an item of this number, it has one such item, and this is its card. -/
def HoldsOnce (store : Store) (card : Card) : Prop :=
  ∃ list found item, store.lists.get? list = some found ∧
    found.items.filter (fun stored => stored.id = card.id) = [item] ∧ item.card = card ∧
      ∀ other, store.Holds other card.id → other = list

variable {store : Store} {now : Timestamp} {k list : ListId} {x item : Item}

theorem Unique.list_eq (unique : store.Unique) {k' : ListId} {x' : Item} (has : store.Has k x)
    (has' : store.Has k' x') (same : x.id = x'.id) : k = k' := by
  obtain ⟨found, there, member⟩ := has
  obtain ⟨found', there', member'⟩ := has'
  exact unique.apart k found there k' found' there' x member x' member' same

theorem Unique.item_eq (unique : store.Unique) {k' : ListId} {x' : Item} (has : store.Has k x)
    (has' : store.Has k' x') (same : x.id = x'.id) : x = x' := by
  obtain rfl := unique.list_eq has has' same
  obtain ⟨found, there, member⟩ := has
  obtain ⟨found', there', member'⟩ := has'
  obtain rfl : found = found' := Option.some.inj (there.symm.trans there')
  exact List.inj_on_of_nodup_map (unique.distinct k found there) member member' same

theorem Unique.holdsOnce (unique : store.Unique) (has : store.Has list item) :
    store.HoldsOnce item.card := by
  have same (other) (held : store.Holds other item.id) : other = list := by
    obtain ⟨item', has', number⟩ := held
    exact unique.list_eq has' has number
  obtain ⟨found, there, member⟩ := has
  refine ⟨list, found, item, there, ?_, rfl, same⟩
  have distinct : (found.items.filter fun stored => stored.id = item.id).Nodup :=
    (List.Nodup.of_map _ (unique.distinct list found there)).filter _
  by_contra several
  rcases (distinct.ne_singleton_iff item).mp several with none | ⟨other, member', different⟩
  · exact List.filter_eq_nil_iff.mp none item member (by simp)
  · obtain ⟨inside, number⟩ := List.mem_filter.mp member'
    refine different (unique.item_eq ⟨found, there, inside⟩ ⟨found, there, member⟩ ?_)
    simpa using number

theorem has_change {after : Store} {change : ItemList → ItemList}
    (lists : ∀ k, after.lists.get? k =
      if k = list then (store.lists.get? k).map change else store.lists.get? k) :
    after.Has k x ↔
      ∃ found, store.lists.get? k = some found ∧
        if k = list then x ∈ (change found).items else x ∈ found.items := by
  unfold Has
  rw [lists]
  split
  · simp only [Option.map_eq_some_iff]
    constructor
    · rintro ⟨_, ⟨found, there, rfl⟩, member⟩
      exact ⟨found, there, member⟩
    · rintro ⟨found, there, member⟩
      exact ⟨_, ⟨found, there, rfl⟩, member⟩
  · rfl

theorem has_change_of_items {after : Store} {change : ItemList → ItemList}
    (lists : ∀ k, after.lists.get? k =
      if k = list then (store.lists.get? k).map change else store.lists.get? k)
    (items : ∀ found, (change found).items = found.items) : after.Has k x ↔ store.Has k x := by
  rw [has_change lists]
  simp only [items, ite_self]
  rfl

theorem has_createList {owner : UserId} {name : String}
    (fresh : store.lists.get? ⟨store.nextList⟩ = none) :
    (store.perform now (.createList owner name)).2.Has k x ↔ store.Has k x := by
  unfold Has
  rw [get?_createList]
  split
  next here =>
    subst here
    simp [fresh, ItemList.new]
  next => rfl

theorem WellFormed.get?_nextList (formed : store.WellFormed)
    (unwrapped : store.nextList ≤ store.nextList + 1) :
    store.lists.get? ⟨store.nextList⟩ = none := by
  rw [Option.eq_none_iff_forall_not_mem]
  intro list found
  exact Int32.lt_irrefl ((formed.listNumbers _ list found).lt unwrapped)

theorem has_renameList {name : String} :
    (store.perform now (.renameList list name)).2.Has k x ↔ store.Has k x :=
  has_change_of_items (fun k => store.get?_renameList now list k name) fun _ => rfl

theorem has_setItemCount {count : Int32} :
    (store.perform now (.setItemCount list count)).2.Has k x ↔ store.Has k x :=
  has_change_of_items (fun k => store.get?_setItemCount now list k count) fun _ => rfl

theorem has_deleteList {owner : UserId} :
    (store.perform now (.deleteList list owner)).2.Has k x ↔
      store.Has k x ∧ ¬(k = list ∧ (store.findList list owner).isSome) := by
  unfold Has
  rw [get?_deleteList]
  split
  next gone => simp [gone]
  next stays => simp [stays]

theorem has_insertItem {title description : String} {position : Int32} :
    (store.perform now (.insertItem list title description position)).2.Has k x ↔
      store.Has k x ∨ k = list ∧ (store.lists.get? list).isSome ∧
        x = Item.new now ⟨store.nextItem⟩ list title description position := by
  rw [has_change fun k => store.get?_insertItem now list k title description position]
  by_cases here : k = list
  · subst here
    cases there : store.lists.get? k with
    | none => simp [Has, there]
    | some found => simp [Has, there]
  · simp [here, Has]

theorem has_deleteItem (unique : store.Unique) {id : ItemId} :
    (store.perform now (.deleteItem list id)).2.Has k x ↔
      store.Has k x ∧ ¬(k = list ∧ x.id = id) := by
  rw [has_change fun k => store.get?_deleteItem now list k id]
  unfold Has
  by_cases here : k = list
  · subst here
    constructor
    · rintro ⟨found, there, member⟩
      rw [if_pos rfl, ItemList.mem_without (unique.distinct k found there)] at member
      exact ⟨⟨found, there, member.1⟩, fun gone => member.2 gone.2⟩
    · rintro ⟨⟨found, there, member⟩, stays⟩
      refine ⟨found, there, ?_⟩
      rw [if_pos rfl, ItemList.mem_without (unique.distinct k found there)]
      exact ⟨member, fun same => stays ⟨rfl, same⟩⟩
  · simp [here]

theorem has_deleteItem_of_holds (unique : store.Unique) {id : ItemId}
    (held : store.Holds list id) :
    (store.perform now (.deleteItem list id)).2.Has k x ↔ store.Has k x ∧ x.id ≠ id := by
  obtain ⟨item, here, rfl⟩ := held
  rw [has_deleteItem unique]
  refine and_congr_right fun has => not_congr ⟨And.right, fun same => ⟨?_, same⟩⟩
  exact unique.list_eq has here same

theorem holds_iff {id : ItemId} :
    store.Holds list id ↔ ∃ found, store.lists.get? list = some found ∧ (found.item? id).isSome := by
  constructor
  · rintro ⟨item, ⟨found, there, member⟩, same⟩
    refine ⟨found, there, Option.ne_none_iff_isSome.mp fun absent => ?_⟩
    exact ItemList.item?_none.mp absent item member same
  · rintro ⟨found, there, present⟩
    obtain ⟨item, first⟩ := Option.isSome_iff_exists.mp present
    obtain ⟨member, same⟩ := ItemList.item?_some first
    exact ⟨item, ⟨found, there, member⟩, same⟩

theorem perform_deleteItem_of_holds {id : ItemId} (held : store.Holds list id) :
    (store.perform now (.deleteItem list id)).1 = .ok true := by
  obtain ⟨found, there, present⟩ := holds_iff.mp held
  simp only [perform, there, present]

theorem perform_deleteItem_of_not_holds {id : ItemId} (free : ¬store.Holds list id) :
    store.perform now (.deleteItem list id) = (.ok false, store) := by
  cases there : store.lists.get? list with
  | none => simp only [perform, there]
  | some found =>
    refine perform_deleteItem_of_absent store now list there ?_
    exact Bool.eq_false_iff.mpr fun present => free (holds_iff.mpr ⟨found, there, present⟩)

theorem has_putItem (unique : store.Unique) (home : (store.lists.get? item.list).isSome) :
    (store.perform now (.putItem item)).2.Has k x ↔
      store.Has k x ∧ x.id ≠ item.id ∨ k = item.list ∧ x = item := by
  have without (found) (there : store.lists.get? k = some found) :
      x ∈ (found.without now item.id).items ↔ x ∈ found.items ∧ x.id ≠ item.id :=
    ItemList.mem_without (unique.distinct k found there)
  unfold Has
  rw [get?_putItem _ _ _ home]
  obtain ⟨target, there⟩ := Option.isSome_iff_exists.mp home
  cases found : store.lists.get? k with
  | none =>
    have elsewhere : k ≠ item.list := by
      rintro rfl
      rw [there] at found
      cases found
    simp [elsewhere]
  | some found' =>
    by_cases here : k = item.list
    · have joined : x ∈ ((found'.without now item.id).joined now item).items ↔
          x ∈ (found'.without now item.id).items ∨ x = item := by
        simp [ItemList.joined, (sortBy_perm _).mem_iff]
      simp [here, joined, without found' found]
    · simp [here, without found' found]

/-- An item that no list has is stored in its list, and the other lists stay as they are. -/
theorem get?_putItem_of_free (free : ∀ list, ¬store.Holds list item.id)
    (home : (store.lists.get? item.list).isSome) (k : ListId) :
    (store.perform now (.putItem item)).2.lists.get? k =
      if k = item.list then (store.lists.get? k).map fun found => found.joined now item
      else store.lists.get? k := by
  have same (found) (there : store.lists.get? k = some found) :
      found.without now item.id = found :=
    ItemList.without_of_absent now fun x member number =>
      free k ⟨x, ⟨found, there, member⟩, number⟩
  rw [get?_putItem _ _ _ home]
  cases there : store.lists.get? k with
  | none => simp
  | some found => simp [same found there]

theorem free_deleteItem (unique : store.Unique) {origin : ListId} {id : ItemId}
    (held : store.Holds origin id) (list : ListId) :
    ¬(store.perform now (.deleteItem origin id)).2.Holds list id := by
  rintro ⟨x, has, same⟩
  exact ((has_deleteItem_of_holds unique held).mp has).2 same

/-- The lists after an item has been taken out of one list and stored in another. -/
theorem Unique.get?_move (unique : store.Unique) {later : Timestamp} {origin : ListId}
    {moved : Item} (held : store.Holds origin moved.id) (apart : origin ≠ moved.list)
    (home : (store.lists.get? moved.list).isSome) (k : ListId) :
    ((store.perform now (.deleteItem origin moved.id)).2.perform later
        (.putItem moved)).2.lists.get? k =
      if k = moved.list then (store.lists.get? k).map fun found => found.joined later moved
      else if k = origin then (store.lists.get? k).map fun found => found.without now moved.id
      else store.lists.get? k := by
  have home' : ((store.perform now (.deleteItem origin moved.id)).2.lists.get?
      moved.list).isSome := by
    rw [get?_deleteItem, if_neg (Ne.symm apart)]
    exact home
  rw [get?_putItem_of_free (free_deleteItem unique held) home', get?_deleteItem]
  by_cases here : k = moved.list
  · have elsewhere : k ≠ origin := here ▸ Ne.symm apart
    simp only [if_pos here, if_neg elsewhere]
  · simp only [if_neg here]

theorem nextItem_putItem (home : (store.lists.get? item.list).isSome) :
    (store.perform now (.putItem item)).2.nextItem =
      max store.nextItem (saturatingNext item.id.number) := by
  obtain ⟨target, there⟩ := Option.isSome_iff_exists.mp home
  simp only [perform, there, putItem]

/-- A number that has been used before does not change what is given out next. -/
theorem nextItem_putItem_of_used (home : (store.lists.get? item.list).isSome)
    (used : UsedUp item.id.number store.nextItem) :
    (store.perform now (.putItem item)).2.nextItem = store.nextItem := by
  rw [nextItem_putItem home, max_saturatingNext used]

/-- An item that no list has, and whose number has been used, only comes back when it is stored
as it is. -/
theorem WellFormed.free_perform (formed : store.WellFormed) {call : StoreCall} {id : ItemId}
    (unwrapped : Unwrapped store (store.perform now call).2)
    (free : ∀ list, ¬store.Holds list id) (used : UsedUp id.number store.nextItem)
    (other : ∀ item, call = .putItem item → item.id ≠ id) :
    ∀ list, ¬(store.perform now call).2.Holds list id := by
  rintro k ⟨x, has, same⟩
  have gone : ¬store.Has k x := fun before => free k ⟨x, before, same⟩
  cases call with
  | createList owner name => exact gone ((has_createList (formed.get?_nextList unwrapped.1)).mp has)
  | findList | loadList | listIds | countItems => exact gone has
  | renameList list name => exact gone (has_renameList.mp has)
  | deleteList list owner => exact gone (has_deleteList.mp has).1
  | deleteItem list item => exact gone ((has_deleteItem formed.unique).mp has).1
  | setItemCount list count => exact gone (has_setItemCount.mp has)
  | insertItem list title description position =>
    rcases has_insertItem.mp has with before | ⟨_, there, rfl⟩
    · exact gone before
    · have next : store.nextItem ≤ store.nextItem + 1 := by
        obtain ⟨found, there⟩ := Option.isSome_iff_exists.mp there
        simpa only [Store.perform, there, Store.insertItem] using unwrapped.2
      subst same
      exact Int32.lt_irrefl (used.lt next)
  | putItem item =>
    cases home : store.lists.get? item.list with
    | none =>
      rw [perform_putItem_of_none _ _ home] at has
      exact gone has
    | some target =>
      rcases (has_putItem formed.unique (Option.isSome_iff_exists.mpr ⟨target, home⟩)).mp has with
        before | ⟨_, rfl⟩
      · exact gone before.1
      · exact other x rfl same

/-- Two lists of one user, the first with an item. -/
def twoLists : Store :=
  let first := (Store.empty.perform default (.createList ⟨1⟩ "groceries")).2
  let second := (first.perform default (.createList ⟨1⟩ "errands")).2
  (second.perform default (.insertItem ⟨1⟩ "milk" "" 0)).2

theorem sound_twoLists : twoLists.Sound := by
  have first := Store.sound_empty.perform default (.createList ⟨1⟩ "groceries")
    ⟨by decide, by decide⟩
  have second := first.perform default (.createList ⟨1⟩ "errands") ⟨by decide, by decide⟩
  exact second.perform default (.insertItem ⟨1⟩ "milk" "" 0) ⟨by decide, by decide⟩

end Store

end ListKeeper
