import ListKeeper.Proofs.Store.Ledger
import ListKeeper.Proofs.Store.Ordered

namespace ListKeeper

namespace ItemList

variable {list : ItemList} {item : Item}

theorem eraseP_id_eq_filter {items : List Item} (distinct : (items.map Item.id).Nodup)
    (id : ItemId) : (items.eraseP fun item => item.id == id) = items.filter (·.id ≠ id) := by
  induction items with
  | nil => rfl
  | cons head rest ih =>
    obtain ⟨fresh, distinct⟩ := List.nodup_cons.mp distinct
    by_cases here : head.id = id
    · -- the others all have other numbers, so that the filter drops this item alone
      have others : rest.filter (·.id ≠ id) = rest :=
        List.filter_eq_self.mpr fun other later => decide_eq_true fun same => fresh <| by
          rw [here, ← same]
          exact List.mem_map_of_mem later
      rw [List.eraseP_cons_of_pos (by simpa using here),
        List.filter_cons_of_neg (by simpa using here), others]
    · rw [List.eraseP_cons_of_neg (by simpa using here), ih distinct,
        List.filter_cons_of_pos (by simpa using here)]

theorem without_of_distinct (distinct : (list.items.map Item.id).Nodup) {item : Item}
    (member : item ∈ list.items) (now : Timestamp) :
    list.without now item.id =
      { list with items := list.items.filter (·.id ≠ item.id), updatedAt := now } := by
  have present : (list.item? item.id).isSome :=
    Option.ne_none_iff_isSome.mp fun absent => item?_none.mp absent item member rfl
  rw [without, if_pos present, eraseP_id_eq_filter distinct]

theorem items_without_of_distinct (distinct : (list.items.map Item.id).Nodup) (now : Timestamp)
    (id : ItemId) : (list.without now id).items = list.items.filter (·.id ≠ id) := by
  rw [items_without, eraseP_id_eq_filter distinct]

theorem joined_without (list : ItemList) (now : Timestamp) (item : Item) :
    (list.without now item.id).joined now item =
      { list with
        items := sortBy Item.precedes ((list.without now item.id).items ++ [item])
        updatedAt := now } := by
  unfold without joined
  split <;> rfl

theorem item?_of_mem (distinct : (list.items.map Item.id).Nodup) (member : item ∈ list.items) :
    list.item? item.id = some item :=
  find?_id_of_mem distinct member

/-- An item that is taken out of a list and put back brings the items in their order. -/
theorem items_joined_without (distinct : (list.items.map Item.id).Nodup)
    (member : item ∈ list.items) (now later : Timestamp) :
    ((list.without now item.id).joined later item).items = list.ordered :=
  (ordered_eq distinct
    ((sortBy_perm _).trans (perm_putBack (item?_of_mem distinct member) now))
    (pairwise_sortBy Item.isWeakOrder_precedes _)).symm

end ItemList

/-- What a list shows of itself, its items in their order. -/
def ItemList.shown (list : ItemList) : ListId × UserId × String × List ItemView :=
  (list.id, list.owner, list.name, (ListView.ofList list).items)

namespace Store

/-- The same lists are stored, and they show the same. -/
def Resembles (store other : Store) : Prop :=
  ∀ k, (store.lists.get? k).map ItemList.shown = (other.lists.get? k).map ItemList.shown

/-- When an item is put back where it was taken from, its list is shown as before. -/
theorem Unique.resembles_putBack {store : Store} (unique : store.Unique) {origin : ListId}
    {source : ItemList} {stored : Item} (there : store.lists.get? origin = some source)
    (here : source.item? stored.id = some stored) (home : stored.list = origin)
    (now later : Timestamp) :
    ((store.perform now (.deleteItem origin stored.id)).2.perform later
      (.putItem stored)).2.Resembles store := by
  intro k
  have held : store.Holds origin stored.id :=
    ⟨stored, ⟨source, there, (ItemList.item?_some here).1⟩, rfl⟩
  have kept : ((store.perform now (.deleteItem origin stored.id)).2.lists.get?
      stored.list).isSome := by
    rw [get?_deleteItem, home, if_pos rfl, there]
    rfl
  rw [get?_putItem_of_free (free_deleteItem unique held) kept, get?_deleteItem, home]
  by_cases same : k = origin
  · subst same
    have ordered := ItemList.ordered_joined_without (unique.distinct k source there) here now later
    simp only [↓reduceIte, there, Option.map_some, ItemList.shown, ItemList.items_ofList, ordered]
    simp only [ItemList.joined, ItemList.without_id, ItemList.without_owner, ItemList.without_name]
  · simp only [if_neg same]

/-- What has become of the lists and the items when an item has been put. -/
structure Placed (before after : Store) (item : Item) (now : Timestamp) : Prop where
  /-- The list that the item names has the item and its other items, in canonical order. -/
  arrives : ∃ target items, before.lists.get? item.list = some target ∧
    items.Perm (item :: target.items.filter (·.id ≠ item.id)) ∧
    (items.Pairwise fun a b => b.precedes a = false) ∧
    after.lists.get? item.list = some { target with items, updatedAt := now }
  /-- Another list that had an item of this number has its other items in their order. -/
  leaves : ∀ list found, list ≠ item.list → before.lists.get? list = some found →
    (∃ stored ∈ found.items, stored.id = item.id) →
      after.lists.get? list = some { found with
        items := found.items.filter (·.id ≠ item.id)
        updatedAt := now }
  others : ∀ list, list ≠ item.list → ¬before.Holds list item.id →
    after.lists.get? list = before.lists.get? list
  items : ∀ list stored, after.Has list stored ↔
    before.Has list stored ∧ stored.id ≠ item.id ∨ list = item.list ∧ stored = item
  /-- The item is there once. -/
  once : ∀ list found, after.lists.get? list = some found →
    found.items.filter (·.id = item.id) = if list = item.list then [item] else []
  nextList : after.nextList = before.nextList
  nextItem : after.nextItem = max before.nextItem (saturatingNext item.id.number)

variable {store : Store} {now : Timestamp} {item : Item}

theorem Unique.placed (unique : store.Unique) (home : (store.lists.get? item.list).isSome) :
    Placed store (store.perform now (.putItem item)).2 item now := by
  obtain ⟨target, there⟩ := Option.isSome_iff_exists.mp home
  have distinct := unique.distinct item.list target there
  have lists (k) := store.get?_putItem now k home
  have has (k x) : (store.perform now (.putItem item)).2.Has k x ↔
      store.Has k x ∧ x.id ≠ item.id ∨ k = item.list ∧ x = item := has_putItem unique home
  have perm : (sortBy Item.precedes ((target.without now item.id).items ++ [item])).Perm
      (item :: target.items.filter (·.id ≠ item.id)) := by
    rw [ItemList.items_without_of_distinct distinct]
    exact (sortBy_perm _).trans (List.perm_append_singleton ..)
  have arrived := lists item.list
  rw [if_pos rfl, there, Option.map_some, ItemList.joined_without] at arrived
  constructor
  case arrives =>
    exact ⟨target, _, there, perm, pairwise_sortBy Item.isWeakOrder_precedes _, arrived⟩
  case leaves =>
    rintro list found elsewhere stored ⟨gone, member, same⟩
    rw [lists, if_neg elsewhere, stored, Option.map_some, ← same,
      ItemList.without_of_distinct (unique.distinct list found stored) member]
  case others =>
    intro list elsewhere free
    rw [lists, if_neg elsewhere]
    cases stored : store.lists.get? list with
    | none => rfl
    | some found =>
      rw [Option.map_some, ItemList.without_of_absent now fun x member same =>
        free ⟨x, ⟨found, stored, member⟩, same⟩]
  case items => exact has
  case once =>
    intro list found stored
    by_cases here : list = item.list
    · subst here
      obtain rfl := Option.some.inj (arrived.symm.trans stored)
      have only := perm.filter (·.id = item.id)
      rw [List.filter_cons_of_pos (by simp), List.filter_filter] at only
      simpa using only
    · rw [if_neg here, List.filter_eq_nil_iff]
      intro x member
      rcases (has list x).mp ⟨found, stored, member⟩ with ⟨_, other⟩ | ⟨same, _⟩
      · simpa using other
      · exact absurd same here
  case nextList => exact nextList_perform (by rintro _ _ ⟨⟩)
  case nextItem => exact nextItem_putItem home

/-- To put an item again changes no items. -/
theorem Placed.again {after : Store} (placed : Placed store after item now)
    (distinct : ∀ id list, after.lists.get? id = some list → (list.items.map Item.id).Nodup)
    (later : Timestamp) (list : ListId) :
    ((after.perform later (.putItem item)).2.lists.get? list).map ItemList.items =
      (after.lists.get? list).map ItemList.items := by
  obtain ⟨target, items, -, perm, sorted, arrived⟩ := placed.arrives
  rw [get?_putItem _ _ _ (by rw [arrived]; rfl)]
  by_cases here : list = item.list
  · subst here
    have there : item ∈ items := perm.mem_iff.mpr (List.mem_cons_self ..)
    have single := distinct item.list _ arrived
    rw [if_pos rfl, arrived, Option.map_some, Option.map_some, Option.map_some]
    rw [ItemList.items_joined_without single there]
    exact congrArg some (ItemList.ordered_eq single (.refl _) sorted)
  · rw [if_neg here]
    cases stored : after.lists.get? list with
    | none => rfl
    | some found =>
      have none := placed.once list found stored
      rw [if_neg here, List.filter_eq_nil_iff] at none
      rw [Option.map_some, ItemList.without_of_absent later fun x member same =>
        none x member (by simpa using same)]

/-- An item that has been taken out of a list that it does not name stays out of it. -/
theorem Unique.not_has_putBack (unique : store.Unique) {list : ListId} (has : store.Has list item)
    (elsewhere : item.list ≠ list) (later : Timestamp) :
    ¬((store.perform now (.deleteItem list item.id)).2.perform later (.putItem item)).2.Has list
      item := by
  have gone : ¬(store.perform now (.deleteItem list item.id)).2.Has list item := fun stays =>
    ((has_deleteItem_of_holds unique ⟨item, has, rfl⟩).mp stays).2 rfl
  cases home : (store.perform now (.deleteItem list item.id)).2.lists.get? item.list with
  | none =>
    rw [perform_putItem_of_none _ _ home]
    exact gone
  | some target =>
    rw [has_putItem (unique.deleteItem _) (by rw [home]; rfl)]
    rintro (⟨stays, _⟩ | ⟨same, _⟩)
    · exact gone stays
    · exact elsewhere same.symm

theorem Resembles.has {other : Store} (resembles : store.Resembles other) {list : ListId}
    (has : other.Has list item) : store.Has list item := by
  obtain ⟨found, there, member⟩ := has
  have same := resembles list
  rw [there, Option.map_some] at same
  obtain ⟨found', there', shown⟩ := Option.map_eq_some_iff.mp same
  have views : (ListView.ofList found').items = (ListView.ofList found).items :=
    congrArg (·.2.2.2) shown
  rw [ItemList.items_ofList, ItemList.items_ofList] at views
  have ordered : found'.ordered = found.ordered :=
    List.map_injective_iff.mpr (fun _ _ => ItemView.ofItem_injective) views
  refine ⟨found', there', found'.ordered_perm.mem_iff.mp ?_⟩
  rw [ordered]
  exact found.ordered_perm.mem_iff.mpr member

/-- An item that is taken out of its list is put back there just if it names that list. -/
theorem Unique.resembles_putBack_iff (unique : store.Unique) {list : ListId}
    (has : store.Has list item) (now later : Timestamp) :
    ((store.perform now (.deleteItem list item.id)).2.perform later
      (.putItem item)).2.Resembles store ↔ item.list = list := by
  constructor
  · intro resembles
    by_contra elsewhere
    exact unique.not_has_putBack has elsewhere later (resembles.has has)
  · intro home
    obtain ⟨source, there, member⟩ := has
    have here := ItemList.item?_of_mem (unique.distinct list source there) member
    exact unique.resembles_putBack there here home now later

/-- An item whose list is not stored is refused, and the store stays as it is. Any other item is
then in its list, once, and in no other, all else about the items and the other lists is as it was,
and to put the item again changes no items. An item that is taken out of a list and put back leaves
every list as it was shown, just if it names the list that it was taken from. -/
theorem puts_item (store : Store) (unique : store.Unique) :
    (∀ item now, store.lists.get? item.list = none →
      store.perform now (.putItem item) = (.error (.listNotFound item.list), store)) ∧
    (∀ item now, (store.lists.get? item.list).isSome →
      (store.perform now (.putItem item)).1 = .ok () ∧
      Placed store (store.perform now (.putItem item)).2 item now ∧
      ∀ later list,
        (((store.perform now (.putItem item)).2.perform later (.putItem item)).2.lists.get?
          list).map ItemList.items =
            ((store.perform now (.putItem item)).2.lists.get? list).map ItemList.items) ∧
    ∀ list item, store.Has list item → ∀ now later,
      ((store.perform now (.deleteItem list item.id)).2.perform later
        (.putItem item)).2.Resembles store ↔ item.list = list := by
  refine ⟨fun item now gone => perform_putItem_of_none _ _ gone, fun item now home => ?_,
    fun list item has => unique.resembles_putBack_iff has⟩
  have placed : Placed store (store.perform now (.putItem item)).2 item now := unique.placed home
  refine ⟨?_, placed, placed.again (unique.putItem now item).distinct⟩
  obtain ⟨target, there⟩ := Option.isSome_iff_exists.mp home
  simp only [perform, there]

/-- Two lists that have been stored as they are: in the first two items share a position, and in the
second an item names the first. -/
def strewn : Store :=
  (Store.empty.seed ⟨⟨1⟩, ⟨1⟩, "groceries", 2,
    [⟨⟨4⟩, ⟨1⟩, "milk", "", 0, default, default⟩, ⟨⟨2⟩, ⟨1⟩, "bread", "", 0, default, default⟩],
      default, default⟩).seed ⟨⟨2⟩, ⟨1⟩, "errands", 2,
    [⟨⟨3⟩, ⟨2⟩, "post", "", 5, default, default⟩, ⟨⟨7⟩, ⟨1⟩, "bank", "", 0, default, default⟩],
      default, default⟩

theorem unique_strewn : strewn.Unique :=
  unique_of_nodup_numbers (by decide)

/-- An item goes where two others have its position, an item that goes to a list that is not there
stays, and of the items that are taken out and put back the one that names another list strays. -/
theorem puts_item_strewn :
    strewn.Unique ∧
    strewn.perform default (.putItem ⟨⟨3⟩, ⟨9⟩, "post", "", 5, default, default⟩) =
      (.error (.listNotFound ⟨9⟩), strewn) ∧
    Placed strewn (strewn.perform default (.putItem ⟨⟨3⟩, ⟨1⟩, "post", "", 0, default, default⟩)).2
      ⟨⟨3⟩, ⟨1⟩, "post", "", 0, default, default⟩ default ∧
    ((strewn.perform default (.deleteItem ⟨1⟩ ⟨4⟩)).2.perform default
      (.putItem ⟨⟨4⟩, ⟨1⟩, "milk", "", 0, default, default⟩)).2.Resembles strewn ∧
    ¬((strewn.perform default (.deleteItem ⟨2⟩ ⟨7⟩)).2.perform default
      (.putItem ⟨⟨7⟩, ⟨1⟩, "bank", "", 0, default, default⟩)).2.Resembles strewn := by
  obtain ⟨refused, placed, putBack⟩ := puts_item strewn unique_strewn
  refine ⟨unique_strewn, refused _ default rfl, (placed _ default rfl).2.1, ?_, ?_⟩
  · exact (putBack ⟨1⟩ _ ⟨_, rfl, List.mem_cons_self ..⟩ default default).mpr rfl
  · rw [putBack ⟨2⟩ ⟨⟨7⟩, ⟨1⟩, "bank", "", 0, default, default⟩ ⟨_, rfl, by decide⟩ default default]
    decide

/-- An item that names another list than the one that it is in is not put back there. -/
theorem not_shown_putBack :
    ¬∀ store : Store, store.Unique → ∀ list item, store.Has list item → ∀ now later k,
      (((store.perform now (.deleteItem list item.id)).2.perform later
        (.putItem item)).2.lists.get? k).map (fun found => (ListView.ofList found).items) =
          (store.lists.get? k).map fun found => (ListView.ofList found).items := by
  intro shown
  have second := shown strewn unique_strewn ⟨2⟩ ⟨⟨7⟩, ⟨1⟩, "bank", "", 0, default, default⟩
    ⟨_, rfl, by decide⟩ default default ⟨2⟩
  revert second
  decide

end Store

end ListKeeper
