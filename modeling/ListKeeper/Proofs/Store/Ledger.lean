import ListKeeper.Proofs.Store.Filled

namespace ListKeeper

theorem le_add_one {n : Int32} (room : n ≠ Int32.maxValue) : n ≤ n + 1 := by
  have next := toInt_add_one room
  exact Int32.le_iff_toInt_le.mpr (by omega)

namespace Store

variable {store : Store} {now : Timestamp} {call : StoreCall}

def Deed.creates : Deed → Bool
  | .call _ (.createList ..) => true
  | _ => false

/-- A list is deleted when the answer says so. -/
def deletes (store : Store) : Deed → Bool
  | .call now (.deleteList list owner) =>
    decide ((store.perform now (.deleteList list owner)).1 = .ok true)
  | _ => false

/-- How many lists are created. -/
def created (deeds : List Deed) : Nat :=
  deeds.countP Deed.creates

/-- How many lists are deleted, by one deed after the other. -/
def deleted (store : Store) : List Deed → Nat
  | [] => 0
  | deed :: rest => (store.deletes deed).toNat + (store.act deed).deleted rest

theorem nextList_le_perform (room : store.nextList ≠ Int32.maxValue) :
    store.nextList ≤ (store.perform now call).2.nextList := by
  cases call with
  | createList owner name => exact le_add_one room
  | _ =>
    rw [nextList_perform (by rintro _ _ ⟨⟩)]
    exact Int32.le_refl _

theorem nextItem_le_perform (room : store.nextItem ≠ Int32.maxValue) :
    store.nextItem ≤ (store.perform now call).2.nextItem := by
  cases call with
  | putItem item => exact nextItem_le_putItem item
  | insertItem list title description position =>
    simp only [perform]
    split
    · exact Int32.le_refl _
    · exact le_add_one room
  | _ =>
    rw [nextItem_perform (by rintro _ ⟨⟩) (by rintro _ _ _ _ ⟨⟩)]
    exact Int32.le_refl _

theorem size_deleteList (list : ListId) (owner : UserId) :
    (store.perform now (.deleteList list owner)).2.lists.size +
      (store.deletes (.call now (.deleteList list owner))).toNat = store.lists.size := by
  cases found : store.findList list owner with
  | none => simp [perform, deletes, found]
  | some other =>
    have present : (store.lists.get? list).isSome :=
      Option.isSome_of_eq_some (findList_eq_some.mp found).1
    have fewer := Table.size_erase present
    simpa [perform, deletes, found] using fewer

theorem Sound.size_perform (sound : store.Sound)
    (unwrapped : Unwrapped store (store.perform now call).2) :
    (store.perform now call).2.lists.size + (store.deletes (.call now call)).toNat =
      store.lists.size + (Deed.call now call).creates.toNat := by
  cases call with
  | createList owner name => exact Table.size_insert (sound.get?_nextList unwrapped.1) _
  | deleteList list owner => exact size_deleteList list owner
  | findList | loadList | listIds | countItems => rfl
  | putItem item =>
    simp only [Store.perform]
    split
    · rfl
    · exact (Table.size_modify ..).trans (Table.size_mapEntries ..)
  | _ =>
    simp only [Store.perform]
    split
    · rfl
    · exact Table.size_modify ..

/-- Each call keeps the account of the lists, and so do all calls together. -/
theorem Sound.fill (sound : store.Sound) (deeds : List Deed)
    (unseeded : ∀ list, Deed.seed list ∉ deeds)
    (room : ∀ t ≤ deeds.length, (store.moment deeds t).nextList ≠ Int32.maxValue ∧
      (store.moment deeds t).nextItem ≠ Int32.maxValue) :
    (store.fill deeds).Sound ∧
      (store.fill deeds).lists.size + store.deleted deeds = store.lists.size + created deeds := by
  induction deeds generalizing store with
  | nil => exact ⟨sound, rfl⟩
  | cons deed rest ih =>
    cases deed with
    | seed list => exact absurd (List.mem_cons_self ..) (unseeded list)
    | call now call =>
      obtain ⟨lists, items⟩ := room 0 (Nat.zero_le _)
      have unwrapped : Unwrapped store (store.perform now call).2 :=
        ⟨nextList_le_perform lists, nextItem_le_perform items⟩
      have first := sound.size_perform unwrapped
      obtain ⟨later, others⟩ := ih (sound.perform now call unwrapped)
        (fun list member => unseeded list (List.mem_cons_of_mem _ member))
        fun t within => room (t + 1) (Nat.succ_le_succ within)
      refine ⟨later, ?_⟩
      have counted : created (.call now call :: rest) =
          created rest + (Deed.call now call).creates.toNat := by
        unfold created
        rw [List.countP_cons]
        cases (Deed.call now call).creates <;> rfl
      have gone : store.deleted (.call now call :: rest) =
          (store.deletes (.call now call)).toNat + (store.perform now call).2.deleted rest := rfl
      have left : store.fill (.call now call :: rest) = (store.perform now call).2.fill rest := rfl
      rw [left, counted, gone]
      omega

/-- Over all lists no number of an item comes twice. -/
theorem Unique.nodup_numbers (unique : store.Unique) :
    ((store.lists.values.flatMap ItemList.items).map Item.id).Nodup := by
  rw [List.map_flatMap, List.nodup_flatMap]
  constructor
  · intro list member
    obtain ⟨⟨id, list⟩, there, rfl⟩ := List.mem_map.mp member
    exact unique.distinct id list (Table.get?_eq_some.mpr there)
  · refine List.pairwise_map.mpr (store.lists.ascending.imp_of_mem ?_)
    rintro ⟨id, list⟩ ⟨id', list'⟩ there there' before
    intro number inside inside'
    obtain ⟨item, member, rfl⟩ := List.mem_map.mp inside
    obtain ⟨item', member', same⟩ := List.mem_map.mp inside'
    obtain rfl : id = id' := unique.apart id list (Table.get?_eq_some.mpr there) id' list'
      (Table.get?_eq_some.mpr there') item member item' member' same.symm
    rw [Std.ReflOrd.compare_self] at before
    cases before

theorem unique_of_nodup_numbers
    (once : ((store.lists.values.flatMap ItemList.items).map Item.id).Nodup) : store.Unique := by
  rw [List.map_flatMap, List.nodup_flatMap] at once
  obtain ⟨distinct, disjoint⟩ := once
  have entry {id list} (there : store.lists.get? id = some list) :
      (id, list) ∈ store.lists.entries := Table.get?_eq_some.mp there
  refine ⟨fun id list there => ?_, fun id list there id' list' there' => ?_⟩
  · exact distinct list (List.mem_map_of_mem (entry there))
  · intro item member item' member' same
    by_contra different
    have apart : (id, list) ≠ (id', list') := fun equal => different (congrArg Prod.fst equal)
    have symmetric : Std.Symm fun first second : ListId × ItemList =>
        List.Disjoint (first.2.items.map Item.id) (second.2.items.map Item.id) :=
      ⟨fun _ _ => List.Disjoint.symm⟩
    have unshared := (List.pairwise_map.mp disjoint).forall (entry there) (entry there') apart
    exact unshared (List.mem_map_of_mem member) (same ▸ List.mem_map_of_mem member')

/-- After any calls on an empty store that leave room for further numbers, every list is under its
own number and before the next one, every item is in the list that it names and before the next
one, no number of an item comes twice, and there are as many lists as have been created and not
deleted. -/
theorem kept_in_order (deeds : List Deed) (unseeded : ∀ list, Deed.seed list ∉ deeds)
    (room : ∀ t ≤ deeds.length, (Store.empty.moment deeds t).nextList ≠ Int32.maxValue ∧
      (Store.empty.moment deeds t).nextItem ≠ Int32.maxValue) :
    (∀ id list, (Store.empty.fill deeds).lists.get? id = some list →
      list.id = id ∧ id.number < (Store.empty.fill deeds).nextList ∧
        ∀ item ∈ list.items,
          item.list = list.id ∧ item.id.number < (Store.empty.fill deeds).nextItem) ∧
    (((Store.empty.fill deeds).lists.values.flatMap ItemList.items).map Item.id).Nodup ∧
    (Store.empty.fill deeds).lists.size + Store.empty.deleted deeds = created deeds := by
  obtain ⟨sound, counted⟩ := sound_empty.fill deeds unseeded room
  obtain ⟨lists, items⟩ := room deeds.length (Nat.le_refl _)
  rw [moment, List.take_length] at lists items
  refine ⟨fun id list there => ?_, sound.unique.nodup_numbers, counted.trans (Nat.zero_add _)⟩
  have keyed := sound.keyed id list there
  refine ⟨keyed, (sound.listNumbers id list there).resolve_right lists, fun item member => ?_⟩
  have homed := sound.homed id list there item member
  exact ⟨homed.trans keyed.symm, (sound.itemNumbers id list there item member).resolve_right items⟩

/-- Two lists are created, an item goes from one to the other under the number that it has and
then under another, and the first list is deleted. -/
def rearranged : List Deed :=
  [.createList ⟨1⟩ "groceries", .createList ⟨1⟩ "errands", .insertItem ⟨1⟩ "milk" "" 0,
    .putItem ⟨⟨1⟩, ⟨2⟩, "milk", "", 0, default, default⟩,
    .putItem ⟨⟨9⟩, ⟨2⟩, "milk", "", 0, default, default⟩, .deleteItem ⟨2⟩ ⟨1⟩,
    .setItemCount ⟨2⟩ 1, .deleteList ⟨1⟩ ⟨1⟩, .deleteList ⟨1⟩ ⟨1⟩].map (.call default)

theorem kept_in_order_rearranged :
    (∀ list, Deed.seed list ∉ rearranged) ∧
    (∀ t ≤ rearranged.length, (Store.empty.moment rearranged t).nextList ≠ Int32.maxValue ∧
      (Store.empty.moment rearranged t).nextItem ≠ Int32.maxValue) ∧
    (((Store.empty.fill rearranged).lists.values.flatMap ItemList.items).map Item.id).Nodup ∧
    (Store.empty.fill rearranged).lists.size + 1 = 2 := by
  have unseeded : ∀ list, Deed.seed list ∉ rearranged := by simp [rearranged]
  have room : ∀ t ≤ rearranged.length,
      (Store.empty.moment rearranged t).nextList ≠ Int32.maxValue ∧
        (Store.empty.moment rearranged t).nextItem ≠ Int32.maxValue := by decide
  obtain ⟨-, once, counted⟩ := kept_in_order rearranged unseeded room
  exact ⟨unseeded, room, once, counted⟩

end Store

end ListKeeper
