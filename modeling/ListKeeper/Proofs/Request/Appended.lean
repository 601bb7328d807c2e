import ListKeeper.Document
import ListKeeper.Proofs.Request.Effect
import ListKeeper.Proofs.Request.Transfer

namespace ListKeeper

/-- A position behind some items is beyond theirs, but for one that has the last position. -/
theorem IsBehind.precedes_eq_false_iff {items : List Item} {item other : Item}
    (behind : IsBehind items item.position) (member : other ∈ items) :
    item.precedes other = false ↔
      (other.position = Int32.maxValue → other.id.number ≤ item.id.number) := by
  rw [Item.precedes_eq_false]
  rcases behind with ⟨none, _⟩ | ⟨last, _, above, position⟩
  · rw [none] at member
    cases member
  · have below := Int32.le_iff_toInt_le.mp (above other member)
    have high := Int32.toInt_le last.position
    have largest : Int32.maxValue.toInt = 2147483647 := rfl
    simp only [Int32.lt_iff_toInt_lt, Int32.le_iff_toInt_le, ← Int32.toInt_inj, position, largest]
    omega

namespace ItemList

/-- A list shows an item last, in responses and in its document. -/
def ShowsLast (list : ItemList) (item : Item) : Prop :=
  (ListView.ofList list).items.getLast? = some (ItemView.ofItem item) ∧
    (Document.ofList list).items.getLast? = some ⟨item.title, item.description⟩

variable {list after : ItemList} {item : Item}

theorem showsLast_iff : list.ShowsLast item ↔ list.ordered.getLast? = some item := by
  rw [ShowsLast, items_ofList, Document.ofList, List.getLast?_map, List.getLast?_map]
  constructor
  · rintro ⟨shown, -⟩
    obtain ⟨last, final, same⟩ := Option.map_eq_some_iff.mp shown
    rw [final, ItemView.ofItem_injective same]
  · intro final
    rw [final]
    exact ⟨rfl, rfl⟩

/-- Just if nothing is behind an item that has joined a list, the list shows it last. -/
theorem showsLast_iff_of_joined (distinct : (list.items.map Item.id).Nodup)
    (fresh : ∀ other ∈ list.items, other.id ≠ item.id)
    (perm : after.items.Perm (item :: list.items)) :
    after.ShowsLast item ↔ ∀ other ∈ list.items, item.precedes other = false := by
  rw [showsLast_iff]
  refine getLast?_ordered_iff ?_ (perm.trans (List.perm_append_singleton ..).symm)
  rw [(perm.map _).nodup_iff, List.map_cons, List.nodup_cons]
  refine ⟨fun member => ?_, distinct⟩
  obtain ⟨other, inside, same⟩ := List.mem_map.mp member
  exact fresh other inside same

end ItemList

namespace Store

variable {store : Store}

/-- An item under a new number, at the next position, is shown last. -/
theorem Unique.showsLast_insertItem {list : ListId} {found : ItemList} (unique : store.Unique)
    (below : ∀ item ∈ found.items, item.id.number < store.nextItem)
    (there : store.lists.get? list = some found) (now : Timestamp) (title description : String) :
    ∃ after,
      (store.perform now
        (.insertItem list title description found.nextPosition)).2.lists.get? list = some after ∧
      after.ShowsLast
        (Item.new now ⟨store.nextItem⟩ list title description found.nextPosition) := by
  refine ⟨_, by rw [get?_insertItem, if_pos rfl, there]; rfl, ?_⟩
  rw [ItemList.showsLast_iff_of_joined (unique.distinct list found there) ?_
    (List.perm_append_singleton ..)]
  · intro other member
    rw [IsBehind.precedes_eq_false_iff found.isBehind_nextPosition member]
    exact fun _ => Int32.le_of_lt (below other member)
  · rintro other member same
    have before := below other member
    rw [same] at before
    exact Int32.lt_irrefl before

/-- An item that has been moved is shown last just if no item with a larger number shares its
position, which is then the last of all. -/
theorem Unique.showsLast_move {origin destination : ListId} {source target : ItemList}
    {stored : Item} (unique : store.Unique) (apart : origin ≠ destination)
    (there : store.lists.get? origin = some source) (member : stored ∈ source.items)
    (other : store.lists.get? destination = some target) (now later : Timestamp) :
    let moved := { stored with list := destination, position := target.nextPosition }
    ∃ after, ((store.perform now (.deleteItem origin stored.id)).2.perform later
        (.putItem moved)).2.lists.get? destination = some after ∧
      (after.ShowsLast moved ↔ ∀ other ∈ target.items,
        other.position = Int32.maxValue → other.id.number ≤ moved.id.number) := by
  intro moved
  obtain ⟨target', items, there', behind, perm, after⟩ :=
    (unique.moved apart there member other now later).arrives
  obtain rfl : target = target' := Option.some.inj (other.symm.trans there')
  have fresh (x) (inside : x ∈ target.items) : x.id ≠ moved.id := fun same =>
    apart (unique.apart origin source there destination target other stored member x inside
      same.symm)
  refine ⟨_, after, ?_⟩
  rw [ItemList.showsLast_iff_of_joined (unique.distinct destination target other) fresh perm]
  exact forall₂_congr fun x inside => behind.precedes_eq_false_iff inside

end Store

namespace Request

/-- When requests run alone: an item that is added to a list, whose number is beyond those of all
others, is shown last in it. An item that is moved is shown last in its new list just if no item
with a larger number has the last position of all there. -/
theorem shows_appended_last (clock : Nat → Timestamp) (backend : Backend)
    (unique : backend.store.Unique)
    (below : ∀ list item, backend.store.Has list item → item.id.number < backend.store.nextItem) :
    let course (request : Request) :=
      request.job.advance (Backend.serve clock none) (backend, 0)
    (∀ list user title description item,
      (course (addItem list user title description)).rest = .done (.ok (.item item)) →
        ∃ found,
          (course (addItem list user title description)).state.1.store.lists.get? list =
            some found ∧ found.ShowsLast item) ∧
    ∀ origin number destination user item,
      (course (moveItem origin number destination user)).rest = .done (.ok (.item item)) →
        ∃ target found, backend.store.lists.get? destination = some target ∧
          (course (moveItem origin number destination user)).state.1.store.lists.get? destination =
            some found ∧
          (found.ShowsLast item ↔ ∀ other ∈ target.items,
            other.position = Int32.maxValue → other.id.number ≤ item.id.number) := by
  intro course
  have ended (request : Request) : ∃ result store events,
      Ends (course request) backend result store events ∧
        backend.store.Effect request result store events := takes_job request
  have kept {request result store events}
      (ends : Ends (course request) backend result store events) :
      (course request).state.1.store = store := by
    rw [ends.state, Backend.store_publishAll]
  constructor
  · intro list user title description item done
    obtain ⟨result, store, events, ends, effect⟩ := ended (addItem list user title description)
    rw [kept ends]
    obtain rfl : result = .ok (.item item) := Program.done.inj (ends.rest.symm.trans done)
    cases effect with
    | added _ _ _ _ text about now found owned =>
      have there := (Store.findList_eq_some.mp owned).1
      exact unique.showsLast_insertItem
        (fun other member => below list other ⟨found, there, member⟩) there now text about
  · intro origin number destination user item done
    obtain ⟨result, store, events, ends, effect⟩ :=
      ended (moveItem origin number destination user)
    rw [kept ends]
    obtain rfl : result = .ok (.item item) := Program.done.inj (ends.rest.symm.trans done)
    cases effect with
    | moved _ _ _ _ now later source target stored apart owned other here =>
      obtain ⟨first, -⟩ := Store.findList_eq_some.mp owned
      obtain ⟨second, -⟩ := Store.findList_eq_some.mp other
      obtain ⟨member, rfl⟩ := ItemList.item?_some here
      obtain ⟨after, lists, shown⟩ :=
        unique.showsLast_move apart first member second now later
      exact ⟨target, after, second, lists, shown⟩

theorem has_scattered {list : ListId} {item : Item} (has : scattered.store.Has list item) :
    item.id.number < scattered.store.nextItem := by
  have listed : ∀ entry ∈ scattered.store.lists.entries, ∀ item ∈ entry.2.items,
      item.id.number < scattered.store.nextItem := by decide
  obtain ⟨found, there, member⟩ := has
  exact listed (list, found) (Table.get?_eq_some.mp there) item member

/-- In a list whose only item has the last position of all, a new item is shown last, and so is one
that is moved there and has the larger number. -/
theorem shows_appended_last_scattered :
    scattered.store.Unique ∧
    (∀ list item, scattered.store.Has list item → item.id.number < scattered.store.nextItem) ∧
    (∃ found, ((addItem ⟨2⟩ ⟨1⟩ "bank" "").job.advance
        (Backend.serve (fun _ => default) none) (scattered, 0)).state.1.store.lists.get? ⟨2⟩ =
          some found ∧
      found.ShowsLast ⟨⟨10⟩, ⟨2⟩, "bank", "", Int32.maxValue, default, default⟩) ∧
    ∃ found, ((moveItem ⟨1⟩ ⟨5⟩ ⟨2⟩ ⟨1⟩).job.advance
        (Backend.serve (fun _ => default) none) (scattered, 0)).state.1.store.lists.get? ⟨2⟩ =
          some found ∧
      found.ShowsLast ⟨⟨5⟩, ⟨2⟩, "milk", "", Int32.maxValue, default, default⟩ := by
  have unique : scattered.store.Unique := Store.unique_of_nodup_numbers (by decide)
  obtain ⟨added, moved⟩ :=
    shows_appended_last (fun _ => default) scattered unique fun _ _ => has_scattered
  refine ⟨unique, fun _ _ => has_scattered, ?_, ?_⟩
  · exact added ⟨2⟩ ⟨1⟩ "bank" "" _ rfl
  · obtain ⟨target, found, there, after, shown⟩ := moved ⟨1⟩ ⟨5⟩ ⟨2⟩ ⟨1⟩ _ rfl
    refine ⟨found, after, shown.mpr ?_⟩
    obtain rfl := Option.some.inj there
    decide

/-- The item that is moved is not always shown last: an item with a larger number can have the last
position, which is then that of both. -/
theorem not_shows_appended_last :
    ¬∀ (clock : Nat → Timestamp) (backend : Backend), backend.store.Unique →
      (∀ list item, backend.store.Has list item →
        item.id.number < Int32.maxValue ∧ item.id.number < backend.store.nextItem) →
      let course (request : Request) :=
        request.job.advance (Backend.serve clock none) (backend, 0)
      (∀ list user title description item,
        (course (addItem list user title description)).rest = .done (.ok (.item item)) →
          ∃ found,
            (course (addItem list user title description)).state.1.store.lists.get? list =
              some found ∧ found.ShowsLast item) ∧
      ∀ origin number destination user item,
        (course (moveItem origin number destination user)).rest = .done (.ok (.item item)) →
          ∃ found,
            (course (moveItem origin number destination user)).state.1.store.lists.get?
              destination = some found ∧ found.ShowsLast item := by
  intro shows
  have below (list item) (has : scattered.store.Has list item) :
      item.id.number < Int32.maxValue ∧ item.id.number < scattered.store.nextItem :=
    ⟨Int32.lt_of_lt_of_le (has_scattered has) (Int32.le_iff_toInt_le.mpr (Int32.toInt_le _)),
      has_scattered has⟩
  obtain ⟨-, moved⟩ := shows (fun _ => default) scattered
    (Store.unique_of_nodup_numbers (by decide)) below
  obtain ⟨found, there, last, -⟩ := moved ⟨1⟩ ⟨2⟩ ⟨2⟩ ⟨1⟩ _ rfl
  obtain rfl := Option.some.inj there
  revert last
  decide

end Request

end ListKeeper
