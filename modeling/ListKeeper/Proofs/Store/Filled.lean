import ListKeeper.Proofs.Store.Items

namespace ListKeeper

/-- What every step keeps on a condition holds at the end of a run that meets it at every step. -/
theorem foldl_keeps {σ α : Type} (act : σ → α → σ) (good : σ → Prop) (fine : σ → σ → Prop)
    (keeps : ∀ state step, good state → fine state (act state step) → good (act state step))
    {start : σ} (begins : good start) (steps : List α)
    (always : ∀ t < steps.length,
      fine ((steps.take t).foldl act start) ((steps.take (t + 1)).foldl act start)) :
    good (steps.foldl act start) := by
  induction steps generalizing start with
  | nil => exact begins
  | cons first rest ih =>
    have next : good (act start first) := keeps start first begins (always 0 (Nat.succ_pos _))
    exact ih next fun t within => always (t + 1) (Nat.succ_lt_succ within)

namespace Store

/-- What can be done to a store. -/
inductive Deed where
  /-- A list is stored as it is. -/
  | seed (list : ItemList)
  | call (now : Timestamp) (call : StoreCall)

def act (store : Store) : Deed → Store
  | .seed list => store.seed list
  | .call now call => (store.perform now call).2

def fill (store : Store) (deeds : List Deed) : Store :=
  deeds.foldl act store

/-- The store after the first deeds. -/
def moment (store : Store) (deeds : List Deed) (t : Nat) : Store :=
  store.fill (deeds.take t)

variable {store : Store} {now : Timestamp} {call : StoreCall} {id : ListId} {found : ItemList}

theorem get?_seed (store : Store) (list : ItemList) (id : ListId) :
    (store.seed list).lists.get? id = if id = list.id then some list else store.lists.get? id :=
  Table.get?_insert ..

theorem Keyed.act (keyed : store.Keyed) (deed : Deed) : (store.act deed).Keyed := by
  cases deed with
  | seed list =>
    intro id found there
    rw [Store.act, get?_seed] at there
    split at there
    next same => exact same ▸ (Option.some.inj there) ▸ rfl
    next => exact keyed id found there
  | call now call => exact keyed.perform now call

theorem Keyed.fill (keyed : store.Keyed) (deeds : List Deed) : (store.fill deeds).Keyed :=
  foldl_keeps Store.act Keyed (fun _ _ => True) (fun _ deed keyed _ => keyed.act deed) keyed deeds
    fun _ _ => trivial

theorem keyed_empty : Store.empty.Keyed :=
  sound_empty.keyed

theorem numbered_empty : Store.empty.Numbered :=
  sound_empty.numbered

theorem Numbered.seed (numbered : store.Numbered) (list : ItemList) :
    (store.seed list).Numbered := by
  obtain ⟨kept, beyond⟩ :=
    le_foldl_max (fun item : Item => saturatingNext item.id.number) store.nextItem list.items
  constructor
  case listNumbers =>
    intro id found there
    rw [get?_seed] at there
    split at there
    next same => exact same ▸ (usedUp_saturatingNext _).mono (le_max_of_right ..)
    next => exact (numbered.listNumbers id found there).mono (le_max_of_left ..)
  case itemNumbers =>
    intro id found there item member
    rw [get?_seed] at there
    split at there
    next =>
      obtain rfl := Option.some.inj there
      exact (usedUp_saturatingNext _).mono (beyond item member)
    next => exact (numbered.itemNumbers id found there item member).mono kept

theorem Numbered.fill (numbered : store.Numbered) (deeds : List Deed)
    (unwrapped : ∀ t < deeds.length, Unwrapped (store.moment deeds t) (store.moment deeds (t + 1))) :
    (store.fill deeds).Numbered := by
  refine foldl_keeps Store.act Numbered Unwrapped ?_ numbered deeds unwrapped
  intro store deed numbered unwrapped
  cases deed with
  | seed list => exact numbered.seed list
  | call now call => exact numbered.perform unwrapped

theorem wellFormed_fill (deeds : List Deed)
    (unwrapped : ∀ t < deeds.length,
      Unwrapped (Store.empty.moment deeds t) (Store.empty.moment deeds (t + 1)))
    (unique : (Store.empty.fill deeds).Unique) : (Store.empty.fill deeds).WellFormed :=
  ⟨unique, numbered_empty.fill deeds unwrapped, keyed_empty.fill deeds⟩

theorem eq_maxValue_of_usedUp {next : Int32} (used : UsedUp next next) : next = Int32.maxValue :=
  used.resolve_left Int32.lt_irrefl

theorem eq_maxValue_of_last {next : Int32} (used : UsedUp Int32.maxValue next) :
    next = Int32.maxValue := by
  refine used.resolve_left fun beyond => ?_
  have order := Int32.lt_iff_toInt_lt.mp beyond
  have high := Int32.toInt_le next
  omega

/-- If all that is in use is used up, the next number is in use just if the last of all is. -/
theorem next_in_use_iff (inUse : Int32 → Prop) {next : Int32}
    (used : ∀ number, inUse number → UsedUp number next) : inUse next ↔ inUse Int32.maxValue := by
  constructor
  · intro taken
    rwa [← eq_maxValue_of_usedUp (used next taken)]
  · intro taken
    rwa [eq_maxValue_of_last (used Int32.maxValue taken)]

theorem Numbered.nextList_stored_iff (numbered : store.Numbered) :
    (store.lists.get? ⟨store.nextList⟩).isSome ↔ (store.lists.get? ⟨Int32.maxValue⟩).isSome := by
  refine next_in_use_iff (fun number => (store.lists.get? ⟨number⟩).isSome) fun number stored => ?_
  obtain ⟨list, there⟩ := Option.isSome_iff_exists.mp stored
  exact numbered.listNumbers ⟨number⟩ list there

theorem Numbered.nextItem_held_iff (numbered : store.Numbered) :
    (∃ list, store.Holds list ⟨store.nextItem⟩) ↔ ∃ list, store.Holds list ⟨Int32.maxValue⟩ := by
  refine next_in_use_iff (fun number => ∃ list, store.Holds list ⟨number⟩) fun number held => ?_
  obtain ⟨list, item, ⟨found, there, member⟩, same⟩ := held
  have used := numbered.itemNumbers list found there item member
  rwa [same] at used

/-- Whatever a store is filled with, as long as no number wraps around: a new list gets the number
of a stored list just if a list has the last number of all, and otherwise every stored list stays
as it is; a new item gets the number of a stored item just if an item has the last number of all. -/
theorem new_number_in_use_iff (deeds : List Deed)
    (unwrapped : ∀ t < deeds.length,
      Unwrapped (Store.empty.moment deeds t) (Store.empty.moment deeds (t + 1)))
    (now : Timestamp) :
    (∀ owner name, ∃ list,
      ((Store.empty.fill deeds).perform now (.createList owner name)).1 = .ok list ∧
      (((Store.empty.fill deeds).lists.get? list.id).isSome ↔
        ((Store.empty.fill deeds).lists.get? ⟨Int32.maxValue⟩).isSome) ∧
      ((Store.empty.fill deeds).lists.get? ⟨Int32.maxValue⟩ = none →
        ∀ id found, (Store.empty.fill deeds).lists.get? id = some found →
          ((Store.empty.fill deeds).perform now (.createList owner name)).2.lists.get? id =
            some found)) ∧
    ∀ list title description position, ((Store.empty.fill deeds).lists.get? list).isSome →
      ∃ item,
        ((Store.empty.fill deeds).perform now (.insertItem list title description position)).1 =
          .ok item ∧
        ((∃ id, (Store.empty.fill deeds).Holds id item.id) ↔
          ∃ id, (Store.empty.fill deeds).Holds id ⟨Int32.maxValue⟩) := by
  have numbered := numbered_empty.fill deeds unwrapped
  generalize Store.empty.fill deeds = store at numbered
  constructor
  · intro owner name
    refine ⟨_, rfl, numbered.nextList_stored_iff, fun free id found there => ?_⟩
    rw [get?_createList, if_neg, there]
    rintro rfl
    have stored := numbered.nextList_stored_iff.mp (Option.isSome_of_eq_some there)
    rw [free] at stored
    cases stored
  · intro list title description position stored
    obtain ⟨target, there⟩ := Option.isSome_iff_exists.mp stored
    refine ⟨Item.new now ⟨store.nextItem⟩ list title description position, ?_,
      numbered.nextItem_held_iff⟩
    simp only [perform, there, insertItem]

/-- Every number that is looked up is seen in the listing of the entries. -/
theorem exists_holds_iff {item : ItemId} :
    (∃ id, store.Holds id item) ↔
      ∃ entry ∈ store.lists.entries, (entry.2.item? item).isSome := by
  simp only [holds_iff, Table.get?_eq_some]
  exact ⟨fun ⟨id, list, there, held⟩ => ⟨(id, list), there, held⟩,
    fun ⟨(id, list), there, held⟩ => ⟨id, list, there, held⟩⟩

instance (item : ItemId) : Decidable (∃ id, store.Holds id item) :=
  decidable_of_iff' _ exists_holds_iff

/-- A list that is stored as it is, a new list, an item that is put in it, and the first list
deleted. -/
def restocked : List Deed :=
  [.seed ⟨⟨5⟩, ⟨1⟩, "groceries", 0, [⟨⟨9⟩, ⟨5⟩, "milk", "", 0, default, default⟩], default, default⟩,
    .call default (.createList ⟨1⟩ "errands"),
    .call default (.putItem ⟨⟨12⟩, ⟨6⟩, "post", "", 0, default, default⟩),
    .call default (.deleteList ⟨5⟩ ⟨1⟩)]

theorem new_number_in_use_iff_restocked :
    (∀ t < restocked.length,
      Unwrapped (Store.empty.moment restocked t) (Store.empty.moment restocked (t + 1))) ∧
    ((Store.empty.fill restocked).perform default (.createList ⟨1⟩ "garden")).1 =
      .ok (ItemList.new default ⟨7⟩ ⟨1⟩ "garden") ∧
    (Store.empty.fill restocked).lists.get? ⟨7⟩ = none ∧
    ((Store.empty.fill restocked).perform default (.insertItem ⟨6⟩ "bank" "" 1)).1 =
      .ok (Item.new default ⟨13⟩ ⟨6⟩ "bank" "" 1) ∧
    ¬∃ id, (Store.empty.fill restocked).Holds id ⟨13⟩ := by
  have unwrapped : ∀ t < restocked.length,
      Unwrapped (Store.empty.moment restocked t) (Store.empty.moment restocked (t + 1)) := by decide
  obtain ⟨lists, items⟩ := new_number_in_use_iff restocked unwrapped default
  obtain ⟨list, created, stored, -⟩ := lists ⟨1⟩ "garden"
  obtain ⟨item, inserted, held⟩ := items ⟨6⟩ "bank" "" 1 (by decide)
  obtain rfl : ItemList.new default ⟨7⟩ ⟨1⟩ "garden" = list := Except.ok.inj created
  obtain rfl : Item.new default ⟨13⟩ ⟨6⟩ "bank" "" 1 = item := Except.ok.inj inserted
  refine ⟨unwrapped, created, ?_, inserted, ?_⟩
  · exact Option.not_isSome_iff_eq_none.mp (stored.not.mpr (by decide))
  · exact held.not.mpr (by decide)

/-- A list and an item with the last number of all. -/
def last : ItemList :=
  ⟨⟨Int32.maxValue⟩, ⟨1⟩, "groceries", 0,
    [⟨⟨Int32.maxValue⟩, ⟨Int32.maxValue⟩, "milk", "", 0, default, default⟩], default, default⟩

/-- Once a list and an item with the last number are stored, a new list and a new item get this
number too, and the new list is stored in place of the other. -/
theorem not_new_number_free :
    ¬(∀ owner name list,
      ((Store.empty.fill [.seed last]).perform default (.createList owner name)).1 = .ok list →
        (Store.empty.fill [.seed last]).lists.get? list.id = none) ∧
    ((Store.empty.fill [.seed last]).perform default (.createList ⟨2⟩ "errands")).2.lists.get?
      last.id = some (ItemList.new default last.id ⟨2⟩ "errands") ∧
    ¬∀ list title description position item,
      ((Store.empty.fill [.seed last]).perform default
        (.insertItem list title description position)).1 = .ok item →
          ¬∃ id, (Store.empty.fill [.seed last]).Holds id item.id := by
  refine ⟨fun free => ?_, by decide, fun free => ?_⟩
  · exact absurd (free ⟨2⟩ "errands" _ rfl) (by decide)
  · exact free last.id "bread" "" 1 _ rfl (by decide)

end Store

end ListKeeper
