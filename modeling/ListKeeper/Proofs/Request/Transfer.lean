import ListKeeper.Proofs.Request.Outcome
import ListKeeper.Proofs.Store.Ledger
import ListKeeper.Proofs.Store.Placed

namespace ListKeeper

theorem toInt_saturatingNext (n : Int32) :
    (saturatingNext n).toInt = min (n.toInt + 1) 2147483647 := by
  have high := Int32.toInt_lt n
  unfold saturatingNext
  split
  next last =>
    have size : n.toInt = 2147483647 := by rw [last]; rfl
    have largest : Int32.maxValue.toInt = 2147483647 := rfl
    omega
  next room =>
    have next := toInt_add_one room
    have below : n.toInt ≠ 2147483647 := fun same => room (Int32.toInt_inj.mp same)
    omega

/-- A position behind all items: zero when there are none, else one past the largest, as far as
positions go. -/
def IsBehind (items : List Item) (position : Int32) : Prop :=
  items = [] ∧ position = 0 ∨
    ∃ last ∈ items, (∀ item ∈ items, item.position ≤ last.position) ∧
      position.toInt = min (last.position.toInt + 1) 2147483647

namespace ItemList

variable {list : ItemList}

theorem isBehind_nextPosition (list : ItemList) : IsBehind list.items list.nextPosition := by
  rcases list.nextPosition_cases with first | ⟨last, member, above, next⟩
  · exact Or.inl first
  · refine Or.inr ⟨last, member, above, ?_⟩
    rw [next, toInt_saturatingNext]

end ItemList

namespace Store

/-- A user can move an item of a number from one list to another: the lists are two, both are the
user's, and the item is in the first. -/
def CanMove (store : Store) (origin : ListId) (item : ItemId) (destination : ListId)
    (user : UserId) : Prop :=
  origin ≠ destination ∧
    (∃ target, store.lists.get? destination = some target ∧ target.owner = user) ∧
    ∃ source, store.lists.get? origin = some source ∧ source.owner = user ∧
      ∃ stored ∈ source.items, stored.id = item

/-- What has become of the lists and the items when an item has left one list for another. -/
structure Moved (before after : Store) (origin destination : ListId) (stored moved : Item)
    (left arrived : Timestamp) : Prop where
  /-- The item names its new list and has a position there, and is the same for the rest. -/
  card : moved = { stored with list := destination, position := moved.position }
  /-- The old list has its other items in their order. -/
  leaves : ∃ source, before.lists.get? origin = some source ∧ stored ∈ source.items ∧
    after.lists.get? origin = some { source with
      items := source.items.filter (·.id ≠ stored.id)
      updatedAt := left }
  /-- The new list has the item and all that it had, and the item is behind them. -/
  arrives : ∃ target items, before.lists.get? destination = some target ∧
    IsBehind target.items moved.position ∧ items.Perm (moved :: target.items) ∧
    after.lists.get? destination = some { target with items, updatedAt := arrived }
  others : ∀ list, list ≠ origin → list ≠ destination →
    after.lists.get? list = before.lists.get? list
  items : ∀ list item, after.Has list item ↔
    before.Has list item ∧ item.id ≠ stored.id ∨ list = destination ∧ item = moved
  nextList : after.nextList = before.nextList
  nextItem : after.nextItem = max before.nextItem (saturatingNext stored.id.number)

variable {store : Store} {origin destination : ListId} {source target : ItemList} {stored : Item}

theorem Unique.moved (unique : store.Unique) (apart : origin ≠ destination)
    (there : store.lists.get? origin = some source) (member : stored ∈ source.items)
    (other : store.lists.get? destination = some target) (left arrived : Timestamp) :
    let moved := { stored with list := destination, position := target.nextPosition }
    Moved store ((store.perform left (.deleteItem origin stored.id)).2.perform arrived
      (.putItem moved)).2 origin destination stored moved left arrived := by
  intro moved
  have held : store.Holds origin moved.id := ⟨stored, ⟨source, there, member⟩, rfl⟩
  have home : (store.lists.get? moved.list).isSome := by rw [other]; rfl
  have taken : ((store.perform left (.deleteItem origin stored.id)).2.lists.get?
      moved.list).isSome := by
    rw [get?_deleteItem, if_neg (Ne.symm apart)]
    exact home
  constructor
  case card => rfl
  case leaves =>
    refine ⟨source, there, member, ?_⟩
    rw [unique.get?_move held apart home, if_neg apart, if_pos rfl, there]
    exact congrArg some (source.without_of_distinct (unique.distinct origin source there) member left)
  case arrives =>
    refine ⟨target, sortBy Item.precedes (target.items ++ [moved]), other,
      target.isBehind_nextPosition, (sortBy_perm _).trans (List.perm_append_singleton ..), ?_⟩
    rw [unique.get?_move held apart home, if_pos rfl, other]
    rfl
  case others =>
    intro list first second
    rw [unique.get?_move held apart home, if_neg second, if_neg first]
  case items =>
    intro list item
    rw [has_putItem (unique.deleteItem _) taken, has_deleteItem_of_holds unique held]
    rw [and_assoc, and_self]
  case nextList =>
    rw [nextList_perform (by rintro _ _ ⟨⟩), nextList_perform (by rintro _ _ ⟨⟩)]
  case nextItem =>
    rw [nextItem_putItem taken, nextItem_perform (by rintro _ ⟨⟩) (by rintro _ _ _ _ ⟨⟩)]

end Store

namespace Request

variable {store : Store} (clock : Nat → Timestamp) {origin destination : ListId} {item : ItemId}
  {user : UserId}

theorem outcome_of_canMove (unique : store.Unique)
    (can : store.CanMove origin item destination user) :
    ∃ source target stored, store.lists.get? origin = some source ∧ stored ∈ source.items ∧
      stored.id = item ∧ store.lists.get? destination = some target ∧
      Outcome.moveItem store clock origin item destination user =
        let moved := { stored with list := destination, position := target.nextPosition }
        ⟨.ok (.item moved), ((store.perform (clock 2) (.deleteItem origin stored.id)).2.perform
            (clock 3) (.putItem moved)).2,
          [⟨.listUpdated, .list origin⟩, ⟨.listUpdated, .list destination⟩]⟩ := by
  obtain ⟨apart, ⟨target, other, owned⟩, source, there, owns, stored, member, rfl⟩ := can
  have second : store.findList destination user = some target :=
    Store.findList_eq_some.mpr ⟨other, owned⟩
  have first : store.findList origin user = some source :=
    Store.findList_eq_some.mpr ⟨there, owns⟩
  have here : source.item? stored.id = some stored :=
    ItemList.item?_of_mem (unique.distinct origin source there) member
  refine ⟨source, target, stored, there, member, rfl, other, ?_⟩
  simp only [Outcome.moveItem, if_neg apart, second, first, here]

theorem outcome_of_not_canMove (cannot : ¬store.CanMove origin item destination user) :
    ∃ message, Outcome.moveItem store clock origin item destination user =
      Outcome.refused store (.badRequest message) := by
  unfold Outcome.moveItem
  by_cases apart : origin = destination
  · rw [if_pos apart]
    exact ⟨_, rfl⟩
  rw [if_neg apart]
  cases second : store.findList destination user with
  | none => exact ⟨_, rfl⟩
  | some target =>
  cases first : store.findList origin user with
  | none => exact ⟨_, rfl⟩
  | some source =>
  cases here : source.item? item with
  | none =>
    simp only [here]
    exact ⟨_, rfl⟩
  | some stored =>
    obtain ⟨there, owns⟩ := Store.findList_eq_some.mp first
    exact absurd ⟨apart, ⟨target, Store.findList_eq_some.mp second⟩, source, there, owns, stored,
      ItemList.item?_some here⟩ cannot

/-- A move that runs alone succeeds just if the lists are two, both are the user's and the first has
the item. Then the item that it answers with is the one that is stored now, at the end of its new
list, nothing else about the items and the other lists has changed, and the event of the old list and
that of the new one have been published. Otherwise it is a bad request, and all is as it was. -/
theorem moves_item (clock : Nat → Timestamp) (backend : Backend) (unique : backend.store.Unique)
    (origin : ListId) (item : ItemId) (destination : ListId) (user : UserId) :
    let progress := (moveItem origin item destination user).job.advance
      (Backend.serve clock none) (backend, 0)
    (backend.store.CanMove origin item destination user →
      ∃ stored moved, stored.id = item ∧ progress.rest = .done (.ok (.item moved)) ∧
        Store.Moved backend.store progress.state.1.store origin destination stored moved (clock 2)
          (clock 3) ∧
        Call.published progress.calls =
          [⟨.listUpdated, .list origin⟩, ⟨.listUpdated, .list destination⟩]) ∧
    (¬backend.store.CanMove origin item destination user →
      (∃ message, progress.rest = .done (.error (.badRequest message))) ∧
        progress.state.1 = backend ∧ Call.published progress.calls = []) := by
  intro progress
  have ends : Ends progress backend _ _ _ := ends_job (moveItem origin item destination user)
  constructor
  · intro can
    obtain ⟨source, target, stored, there, member, rfl, other, result⟩ :=
      outcome_of_canMove clock unique can
    have moved := unique.moved can.1 there member other (clock 2) (clock 3)
    simp only [outcome, result] at ends
    refine ⟨stored, _, rfl, ends.rest, ?_, ends.published⟩
    rw [ends.state, Backend.store_publishAll]
    exact moved
  · intro cannot
    obtain ⟨message, result⟩ := outcome_of_not_canMove clock cannot
    simp only [outcome, result, Outcome.refused] at ends
    exact ⟨⟨message, ends.rest⟩, ends.state, ends.published⟩

/-- Lists that have been stored as they are: the positions of the first leave gaps, repeat and go
below zero, and its items are in no order; the second has an item at the last position of all. -/
def scattered : Backend :=
  let first := Store.empty.seed ⟨⟨1⟩, ⟨1⟩, "groceries", 3,
    [⟨⟨5⟩, ⟨1⟩, "milk", "", 40, default, default⟩, ⟨⟨2⟩, ⟨1⟩, "bread", "rye", -7, default, default⟩,
      ⟨⟨9⟩, ⟨1⟩, "salt", "", 40, default, default⟩], default, default⟩
  let second := first.seed ⟨⟨2⟩, ⟨1⟩, "errands", 0,
    [⟨⟨3⟩, ⟨2⟩, "post", "", 2147483647, default, default⟩], default, default⟩
  ⟨second.seed ⟨⟨3⟩, ⟨2⟩, "errands", 0, [], default, default⟩, .empty, .new 1, []⟩

/-- The item with the lowest position goes behind the item that nothing can be beyond; to another
user's list it does not go. -/
theorem moves_item_scattered :
    scattered.store.Unique ∧
    (∃ moved, ((moveItem ⟨1⟩ ⟨2⟩ ⟨2⟩ ⟨1⟩).job.advance
        (Backend.serve (fun _ => default) none) (scattered, 0)).rest = .done (.ok (.item moved)) ∧
      moved.position = 2147483647) ∧
    ((moveItem ⟨1⟩ ⟨2⟩ ⟨3⟩ ⟨1⟩).job.advance
      (Backend.serve (fun _ => default) none) (scattered, 0)).state.1 = scattered := by
  have unique : scattered.store.Unique := Store.unique_of_nodup_numbers (by decide)
  have can : scattered.store.CanMove ⟨1⟩ ⟨2⟩ ⟨2⟩ ⟨1⟩ :=
    ⟨by decide, ⟨_, rfl, rfl⟩, _, rfl, rfl, ⟨⟨2⟩, ⟨1⟩, "bread", "rye", -7, default, default⟩,
      by decide, rfl⟩
  have cannot : ¬scattered.store.CanMove ⟨1⟩ ⟨2⟩ ⟨3⟩ ⟨1⟩ := by
    rintro ⟨-, ⟨target, there, owned⟩, -⟩
    obtain rfl := Option.some.inj there
    revert owned
    decide
  obtain ⟨stored, moved, -, rest, change, -⟩ :=
    (moves_item (fun _ => default) scattered unique ⟨1⟩ ⟨2⟩ ⟨2⟩ ⟨1⟩).1 can
  refine ⟨unique, ⟨moved, rest, ?_⟩,
    ((moves_item (fun _ => default) scattered unique ⟨1⟩ ⟨2⟩ ⟨3⟩ ⟨1⟩).2 cannot).2.1⟩
  obtain ⟨target, items, there, behind, -⟩ := change.arrives
  obtain rfl := Option.some.inj there
  rcases behind with ⟨none, -⟩ | ⟨last, member, -, position⟩
  · cases none
  · rw [List.mem_singleton.mp member] at position
    exact Int32.toInt_inj.mp position

end Request

end ListKeeper
