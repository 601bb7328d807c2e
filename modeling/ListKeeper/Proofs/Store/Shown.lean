import ListKeeper.Document
import ListKeeper.Proofs.Store.Ordered

namespace ListKeeper

/-- The stored items in canonical order: by position, then by number. Items that share both are in
the order in which they are stored. -/
structure InOrder (stored shown : List Item) : Prop where
  perm : shown.Perm stored
  sorted : shown.Pairwise fun a b =>
    a.position < b.position ∨ a.position = b.position ∧ a.id.number ≤ b.id.number
  stable : ∀ position id, (shown.filter fun item => item.position = position ∧ item.id = id) =
    stored.filter fun item => item.position = position ∧ item.id = id

namespace ItemList

theorem inOrder_ordered (list : ItemList) : InOrder list.items list.ordered where
  perm := list.ordered_perm
  sorted := list.pairwise_ordered.imp Item.precedes_eq_false.mp
  stable position id := by
    refine filter_sortBy (fun a b first second => ?_) list.items
    simp only [decide_eq_true_eq] at first second
    rw [Item.precedes_eq_false, first.1, first.2, second.1, second.2]
    exact Or.inr ⟨rfl, Int32.le_refl _⟩

/-- A list and its items in another order are shown alike. -/
theorem shown_of_perm {list : ItemList} {items : List Item}
    (distinct : (list.items.map Item.id).Nodup) (perm : items.Perm list.items) :
    ListView.ofList { list with items } = ListView.ofList list ∧
      Document.ofList { list with items } = Document.ofList list := by
  have same : ({ list with items } : ItemList).ordered = list.ordered :=
    (ordered_eq_of_perm distinct perm).symm
  have views : (ListView.ofList { list with items }).items = (ListView.ofList list).items := by
    rw [items_ofList, items_ofList, same]
  constructor
  · simp only [ListView.ofList] at views ⊢
    rw [views]
  · simp only [Document.ofList, same]

/-- The items of a list are shown in canonical order, every one once, and in its response and its
document alike. With distinct numbers the order in which they are stored makes no difference. -/
theorem shown_in_one_order (list : ItemList) :
    ((ListView.ofList list).items.map fun item => (item.title, item.description)) =
      (Document.ofList list).items.map (fun item => (item.title, item.description)) ∧
    (∃ items, InOrder list.items items ∧
      (ListView.ofList list).items = items.map ItemView.ofItem ∧
      (Document.ofList list).items = items.map fun item => ⟨item.title, item.description⟩) ∧
    ∀ items, (list.items.map Item.id).Nodup → items.Perm list.items →
      ListView.ofList { list with items } = ListView.ofList list ∧
      Document.ofList { list with items } = Document.ofList list := by
  have views := list.items_ofList
  refine ⟨?_, ⟨list.ordered, list.inOrder_ordered, views, rfl⟩, fun items => shown_of_perm⟩
  rw [views, Document.ofList, List.map_map, List.map_map]
  rfl

/-- Two items share a position, and the third has one below zero and the largest number. -/
def errands : ItemList :=
  ⟨⟨1⟩, ⟨1⟩, "errands", 0, [⟨⟨4⟩, ⟨1⟩, "post", "", 7, default, default⟩,
    ⟨⟨2⟩, ⟨1⟩, "bank", "before noon", 7, default, default⟩,
    ⟨⟨9⟩, ⟨1⟩, "bakery", "", -3, default, default⟩], default, default⟩

theorem shown_in_one_order_errands :
    (errands.items.map Item.id).Nodup ∧ errands.items.reverse.Perm errands.items ∧
    ListView.ofList { errands with items := errands.items.reverse } = ListView.ofList errands ∧
    Document.ofList { errands with items := errands.items.reverse } = Document.ofList errands ∧
    (Document.ofList errands).items.map ItemDocument.title = ["bakery", "bank", "post"] := by
  have distinct : (errands.items.map Item.id).Nodup := by decide
  have perm := List.reverse_perm errands.items
  obtain ⟨views, documents⟩ := errands.shown_in_one_order.2.2 _ distinct perm
  exact ⟨distinct, perm, views, documents, by decide⟩

end ItemList

end ListKeeper
