import ListKeeper.Proofs.Request.Outcome
import ListKeeper.Proofs.Store.Items
import ListKeeper.Proofs.Store.Ordered

namespace ListKeeper

def Item.retimed (read : Timestamp → Timestamp) (item : Item) : Item :=
  { item with createdAt := read item.createdAt, updatedAt := read item.updatedAt }

def ItemList.retimed (read : Timestamp → Timestamp) (list : ItemList) : ItemList :=
  { list with
    items := list.items.map (Item.retimed read)
    createdAt := read list.createdAt
    updatedAt := read list.updatedAt }

def Request.Answer.retimed (read : Timestamp → Timestamp) : Request.Answer → Request.Answer
  | .list found => .list (found.retimed read)
  | .item found => .item (found.retimed read)
  | .done => .done
  | .reached subscribers => .reached subscribers

def Request.Result.retimed (read : Timestamp → Timestamp) (result : Request.Result) :
    Request.Result :=
  result.map (Request.Answer.retimed read)

namespace ItemList

variable (read : Timestamp → Timestamp) (list : ItemList)

theorem nextPosition_retimed : (list.retimed read).nextPosition = list.nextPosition := by
  have positions : (list.retimed read).items.map Item.position = list.items.map Item.position := by
    rw [retimed, List.map_map]
    rfl
  rw [nextPosition, positions, nextPosition]

theorem item?_retimed (id : ItemId) :
    (list.retimed read).item? id = (list.item? id).map (Item.retimed read) := by
  rw [item?, retimed, List.find?_map]
  rfl

/-- Lists that look the same have items that look the same under each number. -/
theorem item?_cases {read : Timestamp → Timestamp} {list list' : ItemList}
    (shown : list.retimed read = list'.retimed read) (id : ItemId) : (list.item? id = none ∧ list'.item? id = none) ∨
      ∃ item item', list.item? id = some item ∧ list'.item? id = some item' ∧
        item.retimed read = item'.retimed read := by
  have same : (list.item? id).map (Item.retimed read) = (list'.item? id).map (Item.retimed read) := by
    rw [← item?_retimed, shown, item?_retimed]
  cases here : list.item? id with
  | none =>
    rw [here] at same
    exact Or.inl ⟨rfl, Option.map_eq_none_iff.mp same.symm⟩
  | some item =>
    rw [here] at same
    obtain ⟨item', here', shown⟩ := Option.map_eq_some_iff.mp same.symm
    exact Or.inr ⟨item, item', rfl, here', shown.symm⟩

theorem without_retimed (now : Timestamp) (id : ItemId) :
    (list.without now id).retimed read = (list.retimed read).without (read now) id := by
  have kept : (list.items.eraseP fun item => item.id == id).map (Item.retimed read) =
      (list.items.map (Item.retimed read)).eraseP fun item => item.id == id := by
    rw [List.eraseP_map]
    rfl
  rw [without, without, item?_retimed, Option.isSome_map]
  split
  · simp only [retimed, kept]
  · rfl

theorem joined_retimed (now : Timestamp) (item : Item) :
    (list.joined now item).retimed read = (list.retimed read).joined (read now) (item.retimed read) := by
  have order : ∀ a b : Item, (a.retimed read).precedes (b.retimed read) = a.precedes b :=
    fun _ _ => rfl
  have sorted := sortBy_map order (list.items ++ [item])
  rw [List.map_append, List.map_singleton] at sorted
  simp only [joined, retimed, sorted]

end ItemList

namespace Store

/-- What a user can see of a store under a number, its clock readings read in this way. -/
def seen (store : Store) (read : Timestamp → Timestamp) (user : UserId) (id : ListId) :
    Option ItemList :=
  (store.findList id user).map (ItemList.retimed read)

/-- Two stores have the same lists of a user, but for clock readings, and give out the same numbers
next. -/
structure Alike (read : Timestamp → Timestamp) (user : UserId) (store store' : Store) : Prop where
  seen : ∀ id, store.seen read user id = store'.seen read user id
  nextList : store.nextList = store'.nextList
  nextItem : store.nextItem = store'.nextItem

/-- Every list of another user is there before and after, and is the same. -/
def Untouched (user : UserId) (before after : Store) : Prop :=
  ∀ other, other ≠ user → ∀ id, after.findList id other = before.findList id other

theorem Untouched.trans {user : UserId} {before between after : Store}
    (first : Untouched user before between) (second : Untouched user between after) :
    Untouched user before after :=
  fun other different id => (second other different id).trans (first other different id)

section

variable {read : Timestamp → Timestamp} {user : UserId} {store store' after after' : Store}

/-- A change to lists that leaves them to their owners. -/
theorem findList_map {change : ListId → ItemList → ItemList}
    (lists : ∀ k, after.lists.get? k = (store.lists.get? k).map (change k))
    (owner : ∀ k found, (change k found).owner = found.owner) (k : ListId) (user : UserId) :
    after.findList k user = (store.findList k user).map (change k) := by
  unfold findList
  rw [lists]
  cases store.lists.get? k with
  | none => rfl
  | some found =>
    rw [Option.map_some, Option.filter_some, Option.filter_some, owner]
    split <;> rfl

/-- A user has a list in both stores, and it looks the same, or in neither. -/
theorem findList_cases {id : ListId} (same : store.seen read user id = store'.seen read user id) :
    (store.findList id user = none ∧ store'.findList id user = none) ∨
      ∃ found found', store.findList id user = some found ∧
        store'.findList id user = some found' ∧ found.retimed read = found'.retimed read := by
  unfold seen at same
  cases owned : store.findList id user with
  | none =>
    rw [owned] at same
    exact Or.inl ⟨rfl, Option.map_eq_none_iff.mp same.symm⟩
  | some found =>
    rw [owned] at same
    obtain ⟨found', owned', shown⟩ := Option.map_eq_some_iff.mp same.symm
    exact Or.inr ⟨found, found', rfl, owned', shown.symm⟩

/-- Two changes that make the same of what looks the same. -/
def Agree (read : Timestamp → Timestamp) (change change' : ItemList → ItemList) : Prop :=
  ∀ found found', found.retimed read = found'.retimed read →
    (change found).retimed read = (change' found').retimed read

theorem seen_map {change change' : ListId → ItemList → ItemList}
    (same : ∀ id, store.seen read user id = store'.seen read user id)
    (lists : ∀ k, after.lists.get? k = (store.lists.get? k).map (change k))
    (lists' : ∀ k, after'.lists.get? k = (store'.lists.get? k).map (change' k))
    (owner : ∀ k found, (change k found).owner = found.owner)
    (owner' : ∀ k found, (change' k found).owner = found.owner)
    (agree : ∀ k, Agree read (change k) (change' k)) (k : ListId) :
    after.seen read user k = after'.seen read user k := by
  rw [seen, seen, findList_map lists owner, findList_map lists' owner']
  rcases findList_cases (same k) with ⟨none, none'⟩ | ⟨found, found', owned, owned', shown⟩
  · rw [none, none']
    rfl
  · rw [owned, owned']
    exact congrArg some (agree k found found' shown)

/-- A change to one list as a change to all lists. -/
def only (list : ListId) (change : ItemList → ItemList) (k : ListId) : ItemList → ItemList :=
  if k = list then change else id

theorem changed_only {list : ListId} {change : ItemList → ItemList}
    (lists : ∀ k, after.lists.get? k =
      if k = list then (store.lists.get? k).map change else store.lists.get? k) (k : ListId) :
    after.lists.get? k = (store.lists.get? k).map (only list change k) := by
  rw [lists, only]
  split
  · rfl
  · rw [Option.map_id]
    rfl

theorem owner_only {list : ListId} {change : ItemList → ItemList}
    (owner : ∀ found, (change found).owner = found.owner) (k : ListId) (found : ItemList) :
    (only list change k found).owner = found.owner := by
  unfold only
  split
  · exact owner found
  · rfl

/-- A change to lists of one user leaves the others theirs. -/
theorem untouched_map {change : ListId → ItemList → ItemList}
    (lists : ∀ k, after.lists.get? k = (store.lists.get? k).map (change k))
    (owner : ∀ k found, (change k found).owner = found.owner)
    (own : ∀ k, (∃ found, store.findList k user = some found) ∨ ∀ found, change k found = found) :
    Untouched user store after := by
  intro other different k
  rw [findList_map lists owner]
  rcases own k with ⟨found, owned⟩ | same
  · obtain ⟨there, mine⟩ := findList_eq_some.mp owned
    have hidden : store.findList k other = none := by
      rw [findList, there, Option.filter_some, mine, if_neg]
      simpa using different.symm
    rw [hidden]
    rfl
  · have identity : change k = id := funext same
    rw [identity, Option.map_id]
    rfl

/-- A change to one list leaves the lists of all but its owner as they are. -/
theorem untouched_change {list : ListId} {found : ItemList} {change : ItemList → ItemList}
    (owned : store.findList list user = some found)
    (lists : ∀ k, after.lists.get? k =
      if k = list then (store.lists.get? k).map change else store.lists.get? k)
    (owner : ∀ found, (change found).owner = found.owner) : Untouched user store after := by
  refine untouched_map (changed_only lists) (owner_only owner) fun k => ?_
  by_cases here : k = list
  · exact Or.inl ⟨found, here ▸ owned⟩
  · exact Or.inr fun found => congrFun (if_neg here) found

theorem seen_change {list : ListId} {change change' : ItemList → ItemList}
    (same : ∀ id, store.seen read user id = store'.seen read user id)
    (lists : ∀ k, after.lists.get? k =
      if k = list then (store.lists.get? k).map change else store.lists.get? k)
    (lists' : ∀ k, after'.lists.get? k =
      if k = list then (store'.lists.get? k).map change' else store'.lists.get? k)
    (owner : ∀ found, (change found).owner = found.owner)
    (owner' : ∀ found, (change' found).owner = found.owner) (agree : Agree read change change')
    (k : ListId) : after.seen read user k = after'.seen read user k := by
  refine seen_map same (changed_only lists) (changed_only lists') (owner_only owner)
    (owner_only owner') (fun k => ?_) k
  unfold only
  split
  · exact agree
  · exact fun _ _ shown => shown

/-- A call that makes nothing new leaves the next numbers as they are. -/
theorem Alike.perform (alike : store.Alike read user store') {now now' : Timestamp} {call : StoreCall}
    (seen : ∀ k, (store.perform now call).2.seen read user k =
      (store'.perform now' call).2.seen read user k)
    (create : ∀ owner name, call ≠ .createList owner name) (put : ∀ item, call ≠ .putItem item)
    (insert : ∀ list title description position,
      call ≠ .insertItem list title description position) :
    (store.perform now call).2.Alike read user (store'.perform now' call).2 where
  seen := seen
  nextList := by rw [nextList_perform create, nextList_perform create, alike.nextList]
  nextItem := by rw [nextItem_perform put insert, nextItem_perform put insert, alike.nextItem]

theorem seen_createList (now : Timestamp) (name : String) (k : ListId) :
    (store.perform now (.createList user name)).2.seen read user k =
      if k = ⟨store.nextList⟩ then
        some ((ItemList.new now ⟨store.nextList⟩ user name).retimed read)
      else store.seen read user k := by
  unfold seen findList
  rw [get?_createList]
  split
  · have mine : ((ItemList.new now ⟨store.nextList⟩ user name).owner == user) = true :=
      beq_self_eq_true user
    rw [Option.filter_some, if_pos mine, Option.map_some]
  · rfl

theorem seen_deleteList (now : Timestamp) (list k : ListId) :
    (store.perform now (.deleteList list user)).2.seen read user k =
      if k = list then none else store.seen read user k := by
  by_cases here : k = list
  · subst here
    rw [if_pos rfl]
    unfold seen
    cases owned : store.findList k user with
    | none => simp only [perform, owned, Option.map_none]
    | some found =>
      have gone := store.get?_deleteList now k k user
      rw [owned, if_pos ⟨rfl, rfl⟩] at gone
      rw [findList, gone]
      rfl
  · have kept := store.get?_deleteList now list k user
    rw [if_neg fun both => here both.1] at kept
    rw [if_neg here, seen, findList, kept]
    rfl

/-- What a move does to the lists: an item leaves one and joins another. -/
def moving (origin : ListId) (now later : Timestamp) (moved : Item) (k : ListId) :
    ItemList → ItemList :=
  if k = moved.list then fun found => found.joined later moved
  else if k = origin then fun found => found.without now moved.id
  else id

theorem Unique.moving (unique : store.Unique) {origin destination : ListId}
    {source target : ItemList} {item : ItemId} {stored : Item} (apart : origin ≠ destination)
    (owned : store.findList origin user = some source)
    (other : store.findList destination user = some target)
    (here : source.item? item = some stored) (position : Int32) (now later : Timestamp) :
    let moved : Item := { stored with list := destination, position }
    let after := ((store.perform now (.deleteItem origin item)).2.perform later (.putItem moved)).2
    (∀ k, after.lists.get? k = (store.lists.get? k).map (moving origin now later moved k)) ∧
      after.nextList = store.nextList ∧
      after.nextItem = max store.nextItem (saturatingNext moved.id.number) := by
  intro moved after
  obtain ⟨first, _⟩ := findList_eq_some.mp owned
  obtain ⟨second, _⟩ := findList_eq_some.mp other
  obtain ⟨member, rfl⟩ := ItemList.item?_some here
  have held : store.Holds origin moved.id := ⟨stored, ⟨source, first, member⟩, rfl⟩
  have home : (store.lists.get? moved.list).isSome := by
    rw [show moved.list = destination from rfl, second]
    rfl
  have home' : ((store.perform now (.deleteItem origin stored.id)).2.lists.get? moved.list).isSome := by
    rw [get?_deleteItem, if_neg (Ne.symm apart)]
    exact home
  refine ⟨fun k => ?_, ?_, ?_⟩
  · refine (unique.get?_move held apart home k).trans ?_
    rw [Store.moving]
    split
    · rfl
    split
    · rfl
    · rw [Option.map_id]
      rfl
  · exact (nextList_perform (by simp)).trans (nextList_perform (by simp))
  · refine (nextItem_putItem home').trans ?_
    rw [nextItem_perform (by simp) (by simp)]

theorem owner_moving (origin : ListId) (now later : Timestamp) (moved : Item) (k : ListId)
    (found : ItemList) : (moving origin now later moved k found).owner = found.owner := by
  unfold moving
  split
  · rfl
  split
  · exact found.without_owner now moved.id
  · rfl

theorem agree_moving {origin : ListId} {now now' later later' : Timestamp} {moved moved' : Item}
    (first : read now = read now') (second : read later = read later')
    (same : moved.retimed read = moved'.retimed read) (k : ListId) :
    Agree read (moving origin now later moved k) (moving origin now' later' moved' k) := by
  intro found found' shown
  obtain ⟨number, home⟩ : moved.id = moved'.id ∧ moved.list = moved'.list :=
    ⟨show (moved.retimed read).id = (moved'.retimed read).id by rw [same],
      show (moved.retimed read).list = (moved'.retimed read).list by rw [same]⟩
  unfold moving
  rw [home]
  split
  · rw [ItemList.joined_retimed, ItemList.joined_retimed, shown, second, same]
  split
  · rw [ItemList.without_retimed, ItemList.without_retimed, shown, first, number]
  · exact shown

end

end Store

end ListKeeper
