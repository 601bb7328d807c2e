import ListKeeper.ListView
import ListKeeper.Proofs.Store.Sound

namespace ListKeeper

section

variable {α β : Type} {precedes : α → α → Bool}

theorem sortBy_eq (order : IsWeakOrder precedes) {xs ys : List α} (perm : ys.Perm xs)
    (sorted : ys.Pairwise fun a b => precedes b a = false)
    (strict : ∀ a ∈ xs, ∀ b ∈ xs, precedes b a = false → precedes a b = false → a = b) :
    sortBy precedes xs = ys := by
  refine List.Perm.eq_of_pairwise (fun a b first second => ?_) (pairwise_sortBy order xs) sorted
    ((sortBy_perm xs).trans perm.symm)
  exact strict a ((sortBy_perm xs).mem_iff.mp first) b (perm.mem_iff.mp second)

theorem insertBy_map {shown : β → β → Bool} {f : α → β}
    (same : ∀ a b, shown (f a) (f b) = precedes a b) (x : α) (xs : List α) :
    insertBy shown (f x) (xs.map f) = (insertBy precedes x xs).map f := by
  induction xs with
  | nil => rfl
  | cons y rest ih =>
    simp only [List.map_cons, insertBy, same, ih]
    split <;> rfl

theorem sortBy_map {shown : β → β → Bool} {f : α → β}
    (same : ∀ a b, shown (f a) (f b) = precedes a b) (xs : List α) :
    sortBy shown (xs.map f) = (sortBy precedes xs).map f := by
  induction xs with
  | nil => rfl
  | cons x rest ih => rw [List.map_cons, sortBy, ih, insertBy_map same, sortBy]

end

namespace Item

theorem precedes_eq_false {a b : Item} :
    a.precedes b = false ↔
      b.position < a.position ∨ b.position = a.position ∧ b.id.number ≤ a.id.number := by
  simp only [precedes, Bool.or_eq_false_iff, Bool.and_eq_false_iff, decide_eq_false_iff_not,
    beq_eq_false_iff_ne, ne_eq, Int32.lt_iff_toInt_lt, Int32.le_iff_toInt_le, ← Int32.toInt_inj]
  omega

theorem isWeakOrder_precedes : IsWeakOrder precedes where
  asymm {a b} before := by
    by_contra after
    rw [Bool.not_eq_false, precedes] at after
    simp only [precedes, Bool.or_eq_true, Bool.and_eq_true, decide_eq_true_eq, beq_iff_eq,
      Int32.lt_iff_toInt_lt, ← Int32.toInt_inj] at before after
    omega
  trans {a b c} first second := by
    simp only [precedes_eq_false, Int32.lt_iff_toInt_lt, Int32.le_iff_toInt_le,
      ← Int32.toInt_inj] at first second ⊢
    omega

/-- Of two items with different numbers one precedes the other. -/
theorem id_eq_of_precedes {a b : Item} (first : b.precedes a = false)
    (second : a.precedes b = false) : a.id = b.id := by
  have same : a.id.number = b.id.number := by
    simp only [precedes_eq_false, Int32.lt_iff_toInt_lt, Int32.le_iff_toInt_le,
      ← Int32.toInt_inj] at first second ⊢
    omega
  exact congrArg ItemId.mk same

end Item

theorem ItemView.ofItem_injective {a b : Item} (same : ofItem a = ofItem b) : a = b := by
  obtain ⟨⟨id⟩, ⟨list⟩, _⟩ := a
  obtain ⟨⟨id'⟩, ⟨list'⟩, _⟩ := b
  simpa [ofItem] using same

instance lawfulOrderMaxInt32 : Std.LawfulOrderMax Int32 where
  max_eq_or a b := by
    change (if a ≤ b then b else a) = a ∨ (if a ≤ b then b else a) = b
    split <;> simp
  max_le_iff a b c := by
    constructor
    · intro below
      exact ⟨Int32.le_trans (le_max_of_left a b) below, Int32.le_trans (le_max_of_right a b) below⟩
    · rintro ⟨first, second⟩
      change (if a ≤ b then b else a) ≤ c
      split <;> assumption

namespace ItemList

variable {list : ItemList}

theorem nextPosition_cases (list : ItemList) :
    list.items = [] ∧ list.nextPosition = 0 ∨
      ∃ item ∈ list.items, (∀ other ∈ list.items, other.position ≤ item.position) ∧
        list.nextPosition = saturatingNext item.position := by
  unfold nextPosition
  cases largest : (list.items.map Item.position).max? with
  | none =>
    rw [List.max?_eq_none_iff, List.map_eq_nil_iff] at largest
    exact Or.inl ⟨largest, rfl⟩
  | some position =>
    obtain ⟨member, above⟩ := List.max?_eq_some_iff.mp largest
    obtain ⟨item, inside, rfl⟩ := List.mem_map.mp member
    exact Or.inr ⟨item, inside, fun other there => above _ (List.mem_map_of_mem there), rfl⟩

/-- The positions of the items are numbers from zero up to a bound. -/
def Within (bound : Nat) (list : ItemList) : Prop :=
  ∀ item ∈ list.items, 0 ≤ item.position.toInt ∧ item.position.toInt < bound

theorem Within.mono {bound larger : Nat} (within : list.Within bound) (order : bound ≤ larger) :
    list.Within larger := by
  intro item member
  have := within item member
  omega

theorem Within.nextPosition {bound : Nat} (within : list.Within bound)
    (room : bound < 2147483647) :
    (0 ≤ list.nextPosition.toInt ∧ list.nextPosition.toInt < (bound + 1 : Nat)) ∧
      ∀ item ∈ list.items, item.position < list.nextPosition := by
  rcases list.nextPosition_cases with ⟨none, next⟩ | ⟨last, member, above, next⟩
  · rw [next, none]
    have zero : (0 : Int32).toInt = 0 := rfl
    exact ⟨by omega, fun item absurd => by cases absurd⟩
  · obtain ⟨low, high⟩ := within last member
    have free : last.position ≠ Int32.maxValue := by
      intro full
      have size : last.position.toInt = 2147483647 := by rw [full]; rfl
      omega
    rw [next, saturatingNext, if_neg free]
    have value := toInt_add_one free
    refine ⟨by omega, fun item there => Int32.lt_iff_toInt_lt.mpr ?_⟩
    have below := Int32.le_iff_toInt_le.mp (above item there)
    omega

theorem ordered_perm (list : ItemList) : list.ordered.Perm list.items :=
  sortBy_perm _

theorem pairwise_ordered (list : ItemList) :
    list.ordered.Pairwise fun a b => b.precedes a = false :=
  pairwise_sortBy Item.isWeakOrder_precedes _

theorem items_ofList (list : ItemList) :
    (ListView.ofList list).items = list.ordered.map ItemView.ofItem :=
  sortBy_map (fun _ _ => rfl) list.items

theorem ordered_eq {items : List Item} (distinct : (list.items.map Item.id).Nodup)
    (perm : items.Perm list.items)
    (sorted : items.Pairwise fun a b => b.precedes a = false) : list.ordered = items := by
  refine sortBy_eq Item.isWeakOrder_precedes perm sorted fun a first b second before after => ?_
  exact List.inj_on_of_nodup_map distinct first second (Item.id_eq_of_precedes before after)

theorem ordered_eq_of_perm {other : ItemList} (distinct : (list.items.map Item.id).Nodup)
    (perm : other.items.Perm list.items) : list.ordered = other.ordered :=
  ordered_eq distinct (other.ordered_perm.trans perm) other.pairwise_ordered

/-- An item that precedes none of the others is shown last. -/
theorem ordered_of_behind {after : ItemList} {item : Item}
    (distinct : (after.items.map Item.id).Nodup) (perm : after.items.Perm (list.items ++ [item]))
    (behind : ∀ other ∈ list.items, item.precedes other = false) :
    after.ordered = list.ordered ++ [item] := by
  refine ordered_eq distinct ((list.ordered_perm.append_right _).trans perm.symm) ?_
  refine List.pairwise_append.mpr ⟨list.pairwise_ordered, List.pairwise_singleton _ _, ?_⟩
  intro other member single same
  rw [List.mem_singleton.mp same]
  exact behind other (list.ordered_perm.mem_iff.mp member)

/-- An item beyond all others is shown last. -/
theorem ordered_of_last {after : ItemList} {item : Item}
    (distinct : (after.items.map Item.id).Nodup) (perm : after.items.Perm (list.items ++ [item]))
    (last : ∀ other ∈ list.items, other.position < item.position) :
    after.ordered = list.ordered ++ [item] :=
  ordered_of_behind distinct perm fun other member =>
    Item.precedes_eq_false.mpr (Or.inl (last other member))

/-- Just an item that precedes none of the others is shown last. -/
theorem getLast?_ordered_iff {after : ItemList} {item : Item}
    (distinct : (after.items.map Item.id).Nodup) (perm : after.items.Perm (list.items ++ [item])) :
    after.ordered.getLast? = some item ↔ ∀ other ∈ list.items, item.precedes other = false := by
  constructor
  · intro last other member
    obtain ⟨before, shown⟩ := List.getLast?_eq_some_iff.mp last
    have there : other ∈ after.ordered :=
      after.ordered_perm.mem_iff.mpr (perm.mem_iff.mpr (List.mem_append_left _ member))
    have sorted := after.pairwise_ordered
    rw [shown] at there sorted
    rcases List.mem_append.mp there with earlier | same
    · exact (List.pairwise_append.mp sorted).2.2 other earlier item (List.mem_singleton_self _)
    · rw [List.mem_singleton.mp same, Item.precedes_eq_false]
      exact Or.inr ⟨rfl, Int32.le_refl _⟩
  · intro behind
    rw [ordered_of_behind distinct perm behind]
    exact List.getLast?_concat

/-- When an item goes, the others are shown in their order. -/
theorem ordered_without (distinct : (list.items.map Item.id).Nodup) (now : Timestamp)
    (id : ItemId) :
    (list.without now id).ordered = list.ordered.eraseP fun item => item.id == id := by
  have fewer : ((list.without now id).items.map Item.id).Nodup :=
    distinct.sublist ((list.items_without_sublist now id).map _)
  refine ordered_eq fewer ?_ (list.pairwise_ordered.sublist (List.eraseP_sublist ..))
  rw [items_without]
  refine List.Perm.eraseP _ ?_ list.ordered_perm
  have apart : (list.ordered.map Item.id).Nodup := (list.ordered_perm.map _).nodup_iff.mpr distinct
  refine (List.pairwise_map.mp apart).imp fun different first second => different ?_
  rw [beq_iff_eq] at first second
  rw [first, second]

theorem find?_id_of_mem {items : List Item} {item : Item} (distinct : (items.map Item.id).Nodup)
    (member : item ∈ items) : (items.find? fun other => other.id == item.id) = some item := by
  cases first : items.find? fun other => other.id == item.id with
  | none =>
    have absent := List.find?_eq_none.mp first item member
    simp at absent
  | some other =>
    have same : other.id = item.id := by simpa using List.find?_some first
    rw [List.inj_on_of_nodup_map distinct (List.mem_of_find?_eq_some first) member same]

theorem find?_ordered (distinct : (list.items.map Item.id).Nodup) (id : ItemId) :
    (list.ordered.find? fun item => item.id == id) = list.item? id := by
  cases found : list.item? id with
  | none =>
    rw [List.find?_eq_none]
    intro item member
    simpa using item?_none.mp found item (list.ordered_perm.mem_iff.mp member)
  | some item =>
    obtain ⟨member, rfl⟩ := item?_some found
    exact find?_id_of_mem ((list.ordered_perm.map _).nodup_iff.mpr distinct)
      (list.ordered_perm.mem_iff.mpr member)

/-- An item that is taken out of a list and put back leaves it with the same items. -/
theorem perm_putBack {item : Item} (here : list.item? item.id = some item) (now : Timestamp) :
    ((list.without now item.id).items ++ [item]).Perm list.items := by
  obtain ⟨_, front, back, items, absent⟩ := List.find?_eq_some_iff_append.mp here
  have erased : (list.items.eraseP fun other => other.id == item.id) = front ++ back := by
    rw [items, List.eraseP_append_right _ fun other member => by simpa using absent other member,
      List.eraseP_cons_of_pos (by simp)]
  rw [items_without, erased, items, List.append_assoc]
  exact List.Perm.append_left front (List.perm_append_singleton item back)

/-- A list with the same items shows them as before. -/
theorem ordered_joined_without {item : Item} (distinct : (list.items.map Item.id).Nodup)
    (here : list.item? item.id = some item) (now later : Timestamp) :
    ((list.without now item.id).joined later item).ordered = list.ordered :=
  (ordered_eq_of_perm distinct ((sortBy_perm _).trans (perm_putBack here now))).symm

end ItemList

end ListKeeper
