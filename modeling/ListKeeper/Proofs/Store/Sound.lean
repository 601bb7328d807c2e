import ListKeeper.Store
import Mathlib

namespace ListKeeper

theorem toInt_add_one {n : Int32} (room : n ≠ Int32.maxValue) : (n + 1).toInt = n.toInt + 1 := by
  have low := Int32.le_toInt n
  have high := Int32.toInt_lt n
  have different : n.toInt ≠ 2147483647 := fun same => room (Int32.toInt_inj.mp same)
  rw [Int32.toInt_add, Int32.toInt_one, Int.bmod_def]
  omega

theorem ne_maxValue_of_le_add_one {n : Int32} (unwrapped : n ≤ n + 1) : n ≠ Int32.maxValue := by
  rintro rfl
  revert unwrapped
  decide

theorem le_max_of_left (n m : Int32) : n ≤ max n m := by
  change n ≤ if n ≤ m then m else n
  split
  · assumption
  · exact Int32.le_refl n

theorem le_max_of_right (n m : Int32) : m ≤ max n m := by
  change m ≤ if n ≤ m then m else n
  split
  · exact Int32.le_refl m
  next above => exact (Int32.le_total n m).resolve_left above

theorem le_foldl_max {α : Type} (f : α → Int32) (start : Int32) (values : List α) :
    start ≤ values.foldl (fun next value => max next (f value)) start ∧
      ∀ value ∈ values, f value ≤ values.foldl (fun next value => max next (f value)) start := by
  induction values generalizing start with
  | nil => exact ⟨Int32.le_refl start, fun _ member => by cases member⟩
  | cons head rest ih =>
    obtain ⟨below, others⟩ := ih (max start (f head))
    refine ⟨Int32.le_trans (le_max_of_left ..) below, fun value member => ?_⟩
    rcases List.mem_cons.mp member with rfl | later
    · exact Int32.le_trans (le_max_of_right ..) below
    · exact others value later

/-- A number is used up when the next one to be given out is beyond it, or is the last of all. -/
def UsedUp (n next : Int32) : Prop :=
  n < next ∨ next = Int32.maxValue

theorem UsedUp.lt {n next : Int32} (used : UsedUp n next) (unwrapped : next ≤ next + 1) : n < next :=
  used.resolve_right (ne_maxValue_of_le_add_one unwrapped)

theorem UsedUp.mono {n next later : Int32} (used : UsedUp n next) (order : next ≤ later) :
    UsedUp n later := by
  rcases used with below | last
  · exact Or.inl (Int32.lt_of_lt_of_le below order)
  · right
    subst last
    have high := Int32.toInt_lt later
    have above : (2147483647 : Int) ≤ later.toInt := Int32.le_iff_toInt_le.mp order
    exact Int32.toInt_inj.mp (show later.toInt = 2147483647 by omega)

theorem usedUp_add_one {n : Int32} (unwrapped : n ≤ n + 1) : UsedUp n (n + 1) := by
  have next := toInt_add_one (ne_maxValue_of_le_add_one unwrapped)
  exact Or.inl (Int32.lt_iff_toInt_lt.mpr (by omega))

theorem usedUp_saturatingNext (n : Int32) : UsedUp n (saturatingNext n) := by
  unfold saturatingNext
  split
  next last => exact Or.inr last
  next room =>
    have next := toInt_add_one room
    exact Or.inl (Int32.lt_iff_toInt_lt.mpr (by omega))

theorem max_saturatingNext {n next : Int32} (used : UsedUp n next) :
    max next (saturatingNext n) = next := by
  have below : saturatingNext n ≤ next := by
    rcases used with before | rfl
    · have order := Int32.lt_iff_toInt_lt.mp before
      have high := Int32.toInt_lt next
      unfold saturatingNext
      split
      next => exact Int32.le_of_lt before
      next room =>
        have value := toInt_add_one room
        exact Int32.le_iff_toInt_le.mpr (by omega)
    · exact Int32.le_iff_toInt_le.mpr (Int32.toInt_le _)
  change (if next ≤ saturatingNext n then saturatingNext n else next) = next
  split
  next above => exact Int32.le_antisymm below above
  next => rfl

theorem Table.modify_eq_self {κ ν : Type} [Ord κ] [Std.LawfulEqOrd κ] [DecidableEq κ]
    {table : Table κ ν} {key : κ} {change : ν → ν}
    (same : ∀ value, table.get? key = some value → change value = value) :
    table.modify key change = table := by
  obtain ⟨entries, ascending⟩ := table
  simp only [modify, mapEntries, mk.injEq]
  simp only [get?, compare_beq_eq] at same ⊢
  induction entries with
  | nil => rfl
  | cons head rest ih =>
    obtain ⟨above, ordered⟩ := List.pairwise_cons.mp ascending
    rw [List.map_cons]
    by_cases here : head.1 = key
    · have later (entry) (member : entry ∈ rest) : entry.1 ≠ key := here ▸ ne_of_above above member
      have unchanged : change head.2 = head.2 := same head.2 (by simp [here])
      have others := ih ordered fun value found => by
        obtain ⟨entry, first, rfl⟩ := Option.map_eq_some_iff.mp found
        have there := List.find?_some first
        exact absurd (by simpa using there) (later entry (List.mem_of_find?_eq_some first))
      rw [others, here, decide_eq_true rfl, if_pos rfl, unchanged, ← here]
    · rw [ih ordered fun value found => same value (by simpa [here] using found)]
      simp [here]

namespace ItemList

variable {list : ItemList} {now : Timestamp} {id : ItemId} {item : Item}

theorem item?_some (found : list.item? id = some item) : item ∈ list.items ∧ item.id = id :=
  ⟨List.mem_of_find?_eq_some found, by simpa using List.find?_some found⟩

theorem item?_none : list.item? id = none ↔ ∀ item ∈ list.items, item.id ≠ id := by
  rw [item?, List.find?_eq_none]
  simp

@[simp] theorem without_id (list : ItemList) (now : Timestamp) (id : ItemId) :
    (list.without now id).id = list.id := by
  unfold without; split <;> rfl

@[simp] theorem without_owner (list : ItemList) (now : Timestamp) (id : ItemId) :
    (list.without now id).owner = list.owner := by
  unfold without; split <;> rfl

@[simp] theorem without_name (list : ItemList) (now : Timestamp) (id : ItemId) :
    (list.without now id).name = list.name := by
  unfold without; split <;> rfl

theorem items_without (list : ItemList) (now : Timestamp) (id : ItemId) :
    (list.without now id).items = list.items.eraseP fun item => item.id == id := by
  unfold without
  split
  · rfl
  next absent =>
    have none := item?_none.mp (Option.not_isSome_iff_eq_none.mp absent)
    exact (List.eraseP_of_forall_not fun item member => by simpa using none item member).symm

theorem items_without_sublist (list : ItemList) (now : Timestamp) (id : ItemId) :
    (list.without now id).items.Sublist list.items := by
  rw [items_without]
  exact List.eraseP_sublist ..

theorem without_of_absent (now : Timestamp) (absent : ∀ item ∈ list.items, item.id ≠ id) :
    list.without now id = list := by
  rw [without, item?_none.mpr absent]
  rfl

theorem mem_without (distinct : (list.items.map Item.id).Nodup) :
    item ∈ (list.without now id).items ↔ item ∈ list.items ∧ item.id ≠ id := by
  rw [items_without]
  generalize list.items = items at distinct ⊢
  induction items with
  | nil => simp
  | cons head rest ih =>
    rw [List.map_cons, List.nodup_cons] at distinct
    by_cases here : head.id = id
    · rw [List.eraseP_cons_of_pos (by simpa using here), List.mem_cons]
      constructor
      · intro member
        refine ⟨Or.inr member, fun same => distinct.1 ?_⟩
        rw [here, ← same]
        exact List.mem_map_of_mem member
      · rintro ⟨rfl | member, different⟩
        · exact absurd here different
        · exact member
    · rw [List.eraseP_cons_of_neg (by simpa using here), List.mem_cons, List.mem_cons, ih distinct.2]
      constructor
      · rintro (rfl | ⟨member, different⟩)
        · exact ⟨Or.inl rfl, here⟩
        · exact ⟨Or.inr member, different⟩
      · rintro ⟨rfl | member, different⟩
        · exact Or.inl rfl
        · exact Or.inr ⟨member, different⟩

/-- The list with an item more, in canonical order. -/
def joined (list : ItemList) (now : Timestamp) (item : Item) : ItemList :=
  { list with items := sortBy Item.precedes (list.items ++ [item]), updatedAt := now }

end ItemList

namespace Store

/-- No two stored items have the same number. -/
structure Unique (store : Store) : Prop where
  distinct : ∀ id list, store.lists.get? id = some list → (list.items.map Item.id).Nodup
  apart : ∀ id list, store.lists.get? id = some list →
    ∀ id' list', store.lists.get? id' = some list' →
      ∀ item ∈ list.items, ∀ item' ∈ list'.items, item.id = item'.id → id = id'

/-- The list of a number is stored and has this item. -/
def Has (store : Store) (list : ListId) (item : Item) : Prop :=
  ∃ found, store.lists.get? list = some found ∧ item ∈ found.items

/-- Lists are stored under their own numbers. -/
def Keyed (store : Store) : Prop :=
  ∀ id list, store.lists.get? id = some list → list.id = id

/-- The next numbers are beyond those of the stored lists and items, or are the last. -/
structure Numbered (store : Store) : Prop where
  listNumbers : ∀ id list, store.lists.get? id = some list → UsedUp id.number store.nextList
  itemNumbers : ∀ id list, store.lists.get? id = some list →
    ∀ item ∈ list.items, UsedUp item.id.number store.nextItem

/-- What holds of every store that has been filled in any way, if its items differ in their numbers
and no number has wrapped around. -/
structure WellFormed (store : Store) : Prop extends unique : store.Unique,
    numbered : store.Numbered where
  keyed : store.Keyed

/-- What the calls on a store keep. -/
structure Sound (store : Store) : Prop extends formed : store.WellFormed where
  /-- An item names the list that it stands in. -/
  homed : ∀ id list, store.lists.get? id = some list → ∀ item ∈ list.items, item.list = id

/-- Between two moments no number has wrapped around. -/
def Unwrapped (before after : Store) : Prop :=
  before.nextList ≤ after.nextList ∧ before.nextItem ≤ after.nextItem

instance (before after : Store) : Decidable (Unwrapped before after) :=
  inferInstanceAs (Decidable (_ ∧ _))

theorem sound_empty : Store.empty.Sound := by
  have none (id : ListId) : Store.empty.lists.get? id = none := rfl
  refine ⟨⟨⟨?_, ?_⟩, ⟨?_, ?_⟩, ?_⟩, ?_⟩ <;>
    exact fun id list found => nomatch (none id).symm.trans found

/-- Every list has lost some items at most, or it is new and empty. -/
theorem Unique.shrink {store after : Store} (unique : store.Unique)
    (smaller : ∀ id list', after.lists.get? id = some list' → list'.items = [] ∨
      ∃ list, store.lists.get? id = some list ∧ list'.items.Sublist list.items) :
    after.Unique := by
  constructor
  case distinct =>
    intro id list' found
    rcases smaller id list' found with empty | ⟨list, before, kept⟩
    · rw [empty]
      exact List.nodup_nil
    · exact (unique.distinct id list before).sublist (kept.map _)
  case apart =>
    intro id₁ list₁ found₁ id₂ list₂ found₂ item₁ member₁ item₂ member₂ same
    rcases smaller id₁ list₁ found₁ with empty | ⟨old₁, before₁, kept₁⟩
    · exact absurd member₁ (empty ▸ List.not_mem_nil)
    rcases smaller id₂ list₂ found₂ with empty | ⟨old₂, before₂, kept₂⟩
    · exact absurd member₂ (empty ▸ List.not_mem_nil)
    exact unique.apart id₁ old₁ before₁ id₂ old₂ before₂ item₁ (kept₁.mem member₁) item₂
      (kept₂.mem member₂) same

/-- One item joins a list that it names, under a number that no stored item has. -/
theorem Unique.join {store after : Store} (unique : store.Unique) (item : Item)
    (fresh : ∀ id list, store.lists.get? id = some list → ∀ other ∈ list.items, other.id ≠ item.id)
    (larger : ∀ id list', after.lists.get? id = some list' →
      ∃ list, store.lists.get? id = some list ∧
        (list'.items.Perm list.items ∨
          id = item.list ∧ list'.items.Perm (list.items ++ [item]))) : after.Unique := by
  have members {id list'} (found : after.lists.get? id = some list') :
      ∃ list, store.lists.get? id = some list ∧
        ∀ other ∈ list'.items, other ∈ list.items ∨ id = item.list ∧ other = item := by
    obtain ⟨list, before, kept | ⟨home, joined⟩⟩ := larger id list' found
    · exact ⟨list, before, fun other member => Or.inl (kept.mem_iff.mp member)⟩
    · refine ⟨list, before, fun other member => ?_⟩
      rcases List.mem_append.mp (joined.mem_iff.mp member) with old | new
      · exact Or.inl old
      · exact Or.inr ⟨home, List.mem_singleton.mp new⟩
  constructor
  case distinct =>
    intro id list' found
    obtain ⟨list, before, kept | ⟨_, joined⟩⟩ := larger id list' found
    · exact (kept.map _).nodup_iff.mpr (unique.distinct id list before)
    · rw [(joined.map _).nodup_iff, List.map_append, List.nodup_append]
      refine ⟨unique.distinct id list before, List.nodup_singleton _, ?_⟩
      intro number member number' single
      obtain ⟨other, old, rfl⟩ := List.mem_map.mp member
      rw [List.mem_singleton.mp single]
      exact fresh id list before other old
  case apart =>
    intro id₁ list₁ found₁ id₂ list₂ found₂ item₁ member₁ item₂ member₂ same
    obtain ⟨old₁, before₁, origin₁⟩ := members found₁
    obtain ⟨old₂, before₂, origin₂⟩ := members found₂
    rcases origin₁ item₁ member₁ with stays₁ | ⟨home₁, rfl⟩
    · rcases origin₂ item₂ member₂ with stays₂ | ⟨home₂, rfl⟩
      · exact unique.apart id₁ old₁ before₁ id₂ old₂ before₂ item₁ stays₁ item₂ stays₂ same
      · exact absurd same (fresh id₁ old₁ before₁ item₁ stays₁)
    · rcases origin₂ item₂ member₂ with stays₂ | ⟨home₂, rfl⟩
      · exact absurd same.symm (fresh id₂ old₂ before₂ item₂ stays₂)
      · exact home₁.trans home₂.symm

theorem findList_eq_some {store : Store} {list : ListId} {user : UserId} {found : ItemList} :
    store.findList list user = some found ↔
      store.lists.get? list = some found ∧ found.owner = user := by
  simp [findList, Option.filter_eq_some_iff]

section

variable (store : Store) (now : Timestamp) (list k : ListId)

variable {store list} in
/-- The lists after a call that changes one list, if it finds that. -/
theorem get?_of_modified {after : Store} {change : ItemList → ItemList}
    (missed : store.lists.get? list = none → after = store)
    (modified : ∀ found, store.lists.get? list = some found →
      after.lists = store.lists.modify list change) :
    after.lists.get? k =
      if k = list then (store.lists.get? k).map change else store.lists.get? k := by
  cases found : store.lists.get? list with
  | none =>
    rw [missed found]
    split
    next same => rw [same, found]; rfl
    next => rfl
  | some stored =>
    rw [modified stored found]
    exact Table.get?_modify ..

theorem get?_createList (owner : UserId) (name : String) :
    (store.perform now (.createList owner name)).2.lists.get? k =
      if k = ⟨store.nextList⟩ then some (ItemList.new now ⟨store.nextList⟩ owner name)
      else store.lists.get? k :=
  Table.get?_insert ..

theorem get?_renameList (name : String) :
    (store.perform now (.renameList list name)).2.lists.get? k =
      if k = list then (store.lists.get? k).map fun found => { found with name, updatedAt := now }
      else store.lists.get? k := by
  refine get?_of_modified k (fun missing => ?_) fun found stored => ?_
  · simp only [perform, missing]
  · simp only [perform, stored]

theorem get?_deleteList (owner : UserId) :
    (store.perform now (.deleteList list owner)).2.lists.get? k =
      if k = list ∧ (store.findList list owner).isSome then none else store.lists.get? k := by
  cases found : store.findList list owner with
  | none => simp [perform, found]
  | some =>
    simp only [perform, found, Option.isSome_some, and_true]
    exact Table.get?_erase ..

theorem get?_insertItem (title description : String) (position : Int32) :
    (store.perform now (.insertItem list title description position)).2.lists.get? k =
      if k = list then (store.lists.get? k).map fun found =>
        { found with
          items := found.items ++ [Item.new now ⟨store.nextItem⟩ list title description position]
          updatedAt := now }
      else store.lists.get? k := by
  refine get?_of_modified k (fun missing => ?_) fun found stored => ?_
  · simp only [perform, missing]
  · simp only [perform, stored, insertItem]

theorem get?_deleteItem (item : ItemId) :
    (store.perform now (.deleteItem list item)).2.lists.get? k =
      if k = list then (store.lists.get? k).map fun found => found.without now item
      else store.lists.get? k := by
  refine get?_of_modified k (fun missing => ?_) fun found stored => ?_
  · simp only [perform, missing]
  · simp only [perform, stored, deleteItem]

theorem get?_setItemCount (count : Int32) :
    (store.perform now (.setItemCount list count)).2.lists.get? k =
      if k = list then (store.lists.get? k).map fun found => { found with itemCount := count }
      else store.lists.get? k := by
  refine get?_of_modified k (fun missing => ?_) fun found stored => ?_
  · simp only [perform, missing]
  · simp only [perform, stored]

theorem get?_putItem {item : Item} (home : (store.lists.get? item.list).isSome) :
    (store.perform now (.putItem item)).2.lists.get? k =
      if k = item.list then
        (store.lists.get? k).map fun found => (found.without now item.id).joined now item
      else (store.lists.get? k).map fun found => found.without now item.id := by
  obtain ⟨target, found⟩ := Option.isSome_iff_exists.mp home
  simp only [perform, found, putItem, Table.get?_modify, Table.get?_mapEntries]
  split
  · rw [Option.map_map]; rfl
  · rfl

variable {store now} in
/-- Only a new list takes the next number of a list. -/
theorem nextList_perform {call : StoreCall} (other : ∀ owner name, call ≠ .createList owner name) :
    (store.perform now call).2.nextList = store.nextList := by
  cases call with
  | createList owner name => exact absurd rfl (other owner name)
  | findList | loadList | listIds | countItems => rfl
  | _ => simp only [perform]; split <;> rfl

variable {store now} in
/-- Only an item that is stored can take the next number of an item. -/
theorem nextItem_perform {call : StoreCall} (put : ∀ item, call ≠ .putItem item)
    (insert : ∀ list title description position,
      call ≠ .insertItem list title description position) :
    (store.perform now call).2.nextItem = store.nextItem := by
  cases call with
  | putItem item => exact absurd rfl (put item)
  | insertItem list title description position =>
    exact absurd rfl (insert list title description position)
  | createList | findList | loadList | listIds | countItems => rfl
  | _ => simp only [perform]; split <;> rfl

variable {store now} in
theorem nextItem_le_putItem (item : Item) :
    store.nextItem ≤ (store.perform now (.putItem item)).2.nextItem := by
  simp only [perform]
  split
  · exact Int32.le_refl _
  · exact le_max_of_left ..

variable {store now} in
/-- A call that gives out no number. -/
theorem unwrapped_perform {call : StoreCall}
    (create : ∀ owner name, call ≠ .createList owner name) (put : ∀ item, call ≠ .putItem item)
    (insert : ∀ list title description position,
      call ≠ .insertItem list title description position) :
    Unwrapped store (store.perform now call).2 := by
  rw [Unwrapped, nextList_perform create, nextItem_perform put insert]
  exact ⟨Int32.le_refl _, Int32.le_refl _⟩

variable {store now} in
theorem unwrapped_putItem (item : Item) :
    Unwrapped store (store.perform now (.putItem item)).2 := by
  refine ⟨?_, nextItem_le_putItem item⟩
  rw [nextList_perform (by simp)]
  exact Int32.le_refl _

theorem perform_deleteItem_of_absent {found : ItemList} {item : ItemId}
    (stored : store.lists.get? list = some found) (absent : (found.item? item).isSome = false) :
    store.perform now (.deleteItem list item) = (.ok false, store) := by
  have same : store.lists.modify list (fun found => found.without now item) = store.lists := by
    refine Table.modify_eq_self fun other there => ?_
    rw [stored] at there
    rw [← Option.some.inj there, ItemList.without, absent]
    rfl
  simp only [perform, stored, absent, deleteItem, same]

theorem perform_putItem_of_none {item : Item} (gone : store.lists.get? item.list = none) :
    store.perform now (.putItem item) = (.error (.listNotFound item.list), store) := by
  simp only [perform, gone]

end

section

variable {store : Store} {now : Timestamp} {id : ListId} {found : ItemList}

/-- An item that a call brings to a list names it, and has the next number or is put. -/
def Brought (store after : Store) (id : ListId) (item : Item) : Prop :=
  item.list = id ∧ (item.id.number = store.nextItem ∧ after.nextItem = store.nextItem + 1 ∨
    after.nextItem = max store.nextItem (saturatingNext item.id.number))

/-- A list that is there after a call was there before, with the items that the call does not bring,
or it is new. -/
theorem perform_origin {call : StoreCall}
    (there : (store.perform now call).2.lists.get? id = some found) :
    (∃ list, store.lists.get? id = some list ∧ found.id = list.id ∧
      ∀ item ∈ found.items, item ∈ list.items ∨
        store.Brought (store.perform now call).2 id item) ∨
    (store.perform now call).2.nextList = store.nextList + 1 ∧ id = ⟨store.nextList⟩ ∧
      ∃ owner name, found = ItemList.new now ⟨store.nextList⟩ owner name := by
  have changed {list : ListId} {change : ItemList → ItemList}
      (there : (if id = list then (store.lists.get? id).map change else store.lists.get? id) =
        some found)
      (same : ∀ before, (change before).id = before.id)
      (fewer : ∀ before, (change before).items ⊆ before.items) :
      ∃ before, store.lists.get? id = some before ∧ found.id = before.id ∧
        found.items ⊆ before.items := by
    split at there
    · obtain ⟨before, stored, rfl⟩ := Option.map_eq_some_iff.mp there
      exact ⟨before, stored, same before, fewer before⟩
    · exact ⟨found, there, rfl, List.Subset.refl _⟩
  have kept (origin : ∃ before, store.lists.get? id = some before ∧ found.id = before.id ∧
      found.items ⊆ before.items) :
      ∃ list, store.lists.get? id = some list ∧ found.id = list.id ∧
        ∀ item ∈ found.items, item ∈ list.items ∨
          store.Brought (store.perform now call).2 id item := by
    obtain ⟨before, stored, same, fewer⟩ := origin
    exact ⟨before, stored, same, fun item member => Or.inl (fewer member)⟩
  cases call with
  | createList owner name =>
    rw [get?_createList] at there
    split at there
    next new => exact Or.inr ⟨rfl, new, owner, name, (Option.some.inj there).symm⟩
    next => exact Or.inl (kept ⟨found, there, rfl, List.Subset.refl _⟩)
  | findList | loadList | listIds | countItems =>
    exact Or.inl (kept ⟨found, there, rfl, List.Subset.refl _⟩)
  | renameList list name =>
    rw [get?_renameList] at there
    exact Or.inl (kept (changed there (fun _ => rfl) fun _ => List.Subset.refl _))
  | deleteList list owner =>
    rw [get?_deleteList] at there
    split at there
    · cases there
    · exact Or.inl (kept ⟨found, there, rfl, List.Subset.refl _⟩)
  | insertItem list title description position =>
    rw [get?_insertItem] at there
    split at there
    next here =>
      obtain ⟨before, stored, rfl⟩ := Option.map_eq_some_iff.mp there
      have next : (store.perform now (.insertItem list title description position)).2.nextItem =
          store.nextItem + 1 := by
        rw [here] at stored
        simp only [perform, stored, insertItem]
      refine Or.inl ⟨before, stored, rfl, fun item member => ?_⟩
      rcases List.mem_append.mp member with old | new
      · exact Or.inl old
      · rw [List.mem_singleton.mp new]
        exact Or.inr ⟨here.symm, Or.inl ⟨rfl, next⟩⟩
    next => exact Or.inl (kept ⟨found, there, rfl, List.Subset.refl _⟩)
  | putItem item =>
    cases home : store.lists.get? item.list with
    | none =>
      rw [perform_putItem_of_none _ _ home] at there
      exact Or.inl (kept ⟨found, there, rfl, List.Subset.refl _⟩)
    | some target =>
      have present : (store.lists.get? item.list).isSome := by rw [home]; rfl
      have next : (store.perform now (.putItem item)).2.nextItem =
          max store.nextItem (saturatingNext item.id.number) := by
        simp only [perform, home, putItem]
      rw [store.get?_putItem now id present] at there
      split at there
      next here =>
        obtain ⟨before, stored, rfl⟩ := Option.map_eq_some_iff.mp there
        refine Or.inl ⟨before, stored, before.without_id now item.id, fun other member => ?_⟩
        rcases List.mem_append.mp ((sortBy_perm _).mem_iff.mp member) with old | new
        · exact Or.inl ((before.items_without_sublist now item.id).mem old)
        · rw [List.mem_singleton.mp new]
          exact Or.inr ⟨here.symm, Or.inr next⟩
      next =>
        obtain ⟨before, stored, rfl⟩ := Option.map_eq_some_iff.mp there
        exact Or.inl (kept ⟨before, stored, before.without_id now item.id,
          (before.items_without_sublist now item.id).subset⟩)
  | deleteItem list item =>
    rw [get?_deleteItem] at there
    exact Or.inl (kept (changed there (fun before => before.without_id now item)
      fun before => (before.items_without_sublist now item).subset))
  | setItemCount list count =>
    rw [get?_setItemCount] at there
    exact Or.inl (kept (changed there (fun _ => rfl) fun _ => List.Subset.refl _))

/-- An item that is in a list after a call was there before, or it names the list. -/
theorem has_or_named_of_perform {call : StoreCall} {item : Item}
    (has : (store.perform now call).2.Has id item) : store.Has id item ∨ item.list = id := by
  obtain ⟨found, there, member⟩ := has
  rcases perform_origin there with ⟨list, before, _, origin⟩ | ⟨_, _, owner, name, rfl⟩
  · exact (origin item member).imp (fun old => ⟨list, before, old⟩) And.left
  · cases member

theorem Keyed.perform (keyed : store.Keyed) (now : Timestamp) (call : StoreCall) :
    (store.perform now call).2.Keyed := by
  intro id found there
  rcases perform_origin there with ⟨list, before, same, _⟩ | ⟨_, rfl, owner, name, rfl⟩
  · exact same.trans (keyed id list before)
  · rfl

theorem Numbered.perform (numbered : store.Numbered) {call : StoreCall}
    (unwrapped : Unwrapped store (store.perform now call).2) :
    (store.perform now call).2.Numbered := by
  constructor
  case listNumbers =>
    intro id found there
    rcases perform_origin there with ⟨list, before, _⟩ | ⟨next, rfl, _⟩
    · exact (numbered.listNumbers id list before).mono unwrapped.1
    · rw [next]
      exact usedUp_add_one (next ▸ unwrapped.1)
  case itemNumbers =>
    intro id found there item member
    rcases perform_origin there with ⟨list, before, _, origin⟩ | ⟨_, _, owner, name, rfl⟩
    · rcases origin item member with old | ⟨_, ⟨number, next⟩ | next⟩
      · exact (numbered.itemNumbers id list before item old).mono unwrapped.2
      · rw [next, number]
        exact usedUp_add_one (next ▸ unwrapped.2)
      · rw [next]
        exact (usedUp_saturatingNext _).mono (le_max_of_right ..)
    · cases member

theorem Unique.change {after : Store} (unique : store.Unique) {list : ListId}
    {change : ItemList → ItemList}
    (lists : ∀ k, after.lists.get? k =
      if k = list then (store.lists.get? k).map change else store.lists.get? k)
    (fewer : ∀ found, (change found).items.Sublist found.items) : after.Unique := by
  refine unique.shrink fun id list' found => ?_
  rw [lists] at found
  split at found
  · obtain ⟨old, before, rfl⟩ := Option.map_eq_some_iff.mp found
    exact Or.inr ⟨old, before, fewer old⟩
  · exact Or.inr ⟨list', found, List.Sublist.refl _⟩

theorem Unique.createList (unique : store.Unique) (now : Timestamp) (owner : UserId)
    (name : String) : (store.perform now (.createList owner name)).2.Unique := by
  refine unique.shrink fun id list' found => ?_
  rw [get?_createList] at found
  split at found
  · exact Or.inl (Option.some.inj found ▸ rfl)
  · exact Or.inr ⟨list', found, List.Sublist.refl _⟩

theorem Unique.deleteList (unique : store.Unique) (now : Timestamp) (list : ListId)
    (owner : UserId) : (store.perform now (.deleteList list owner)).2.Unique := by
  refine unique.shrink fun id list' found => ?_
  rw [get?_deleteList] at found
  split at found
  · cases found
  · exact Or.inr ⟨list', found, List.Sublist.refl _⟩

theorem Unique.deleteItem (unique : store.Unique) {list : ListId} (item : ItemId) :
    (store.perform now (.deleteItem list item)).2.Unique :=
  unique.change (store.get?_deleteItem now list · item) fun found =>
    found.items_without_sublist now item

theorem Unique.putItem (unique : store.Unique) (now : Timestamp) (item : Item) :
    (store.perform now (.putItem item)).2.Unique := by
  cases home : store.lists.get? item.list with
  | none =>
    rw [perform_putItem_of_none _ _ home]
    exact unique
  | some target =>
    let taken : Store :=
      { store with lists := store.lists.mapEntries fun _ list => list.without now item.id }
    have lists (k : ListId) : taken.lists.get? k =
        (store.lists.get? k).map fun list => list.without now item.id := Table.get?_mapEntries ..
    have emptied : taken.Unique := by
      refine unique.shrink fun id list' found => ?_
      rw [lists] at found
      obtain ⟨old, before, rfl⟩ := Option.map_eq_some_iff.mp found
      exact Or.inr ⟨old, before, old.items_without_sublist now item.id⟩
    refine emptied.join item (fun id list' found other member => ?_) fun id list' found => ?_
    · rw [lists] at found
      obtain ⟨old, before, rfl⟩ := Option.map_eq_some_iff.mp found
      exact ((ItemList.mem_without (unique.distinct id old before)).mp member).2
    · rw [store.get?_putItem now id (by rw [home]; rfl)] at found
      split at found
      next here =>
        obtain ⟨old, before, rfl⟩ := Option.map_eq_some_iff.mp found
        refine ⟨old.without now item.id, ?_, Or.inr ⟨here, sortBy_perm _⟩⟩
        rw [lists, before]
        rfl
      next => exact ⟨list', (lists id).trans found, Or.inl (List.Perm.refl _)⟩

/-- A new item differs from all others in its number when this does not wrap around. -/
theorem WellFormed.unique_insertItem (formed : store.WellFormed) (now : Timestamp) (list : ListId)
    (title description : String) (position : Int32)
    (unwrapped : Unwrapped store
      (store.perform now (.insertItem list title description position)).2) :
    (store.perform now (.insertItem list title description position)).2.Unique := by
  cases found : store.lists.get? list with
  | none => simpa only [perform, found] using formed.unique
  | some target =>
    have next : (store.perform now (.insertItem list title description position)).2.nextItem =
        store.nextItem + 1 := by simp only [perform, found, Store.insertItem]
    have order : store.nextItem ≤ store.nextItem + 1 := next ▸ unwrapped.2
    refine formed.unique.join (Item.new now ⟨store.nextItem⟩ list title description position) ?_ ?_
    · intro id other before item member same
      have below := (formed.itemNumbers id other before item member).lt order
      rw [same] at below
      exact Int32.lt_irrefl below
    · intro id list' after
      rw [get?_insertItem] at after
      split at after
      next here =>
        obtain ⟨old, before, rfl⟩ := Option.map_eq_some_iff.mp after
        exact ⟨old, before, Or.inr ⟨here, List.Perm.refl _⟩⟩
      next => exact ⟨list', after, Or.inl (List.Perm.refl _)⟩

theorem WellFormed.perform (formed : store.WellFormed) (now : Timestamp) (call : StoreCall)
    (unwrapped : Unwrapped store (store.perform now call).2) :
    (store.perform now call).2.WellFormed := by
  refine ⟨?_, formed.numbered.perform unwrapped, formed.keyed.perform now call⟩
  have unique := formed.unique
  cases call with
  | createList owner name => exact unique.createList now owner name
  | findList | loadList | listIds | countItems => exact unique
  | renameList list name =>
    exact unique.change (store.get?_renameList now list · name) fun _ => List.Sublist.refl _
  | deleteList list owner => exact unique.deleteList now list owner
  | insertItem list title description position =>
    exact formed.unique_insertItem now list title description position unwrapped
  | putItem item => exact unique.putItem now item
  | deleteItem list item => exact unique.deleteItem item
  | setItemCount list count =>
    exact unique.change (store.get?_setItemCount now list · count) fun _ => List.Sublist.refl _

theorem Sound.perform (sound : store.Sound) (now : Timestamp) (call : StoreCall)
    (unwrapped : Unwrapped store (store.perform now call).2) :
    (store.perform now call).2.Sound := by
  refine ⟨sound.formed.perform now call unwrapped, fun id list there item member => ?_⟩
  rcases has_or_named_of_perform ⟨list, there, member⟩ with ⟨before, stored, old⟩ | named
  · exact sound.homed id before stored item old
  · exact named

end

end Store

end ListKeeper
