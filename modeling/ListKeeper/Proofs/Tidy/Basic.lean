import ListKeeper.Projection
import ListKeeper.Proofs.Http.Caller
import ListKeeper.Proofs.Store.Sound

namespace ListKeeper

namespace Text

/-- The text is what is left of it when it is trimmed. -/
def IsTrimmed (text : String) : Prop :=
  trim text = text

/-- The text is trimmed and says something. -/
structure IsTidy (text : String) : Prop where
  shown : text ≠ ""
  trimmed : IsTrimmed text

theorem head?_trimChars {text : List Char} : ∀ c ∈ (trimChars text).head?, isBlank c = false := by
  intro c first
  have kept : trimChars text <+: text.dropWhile isBlank :=
    List.rdropWhile_prefix isBlank (text.dropWhile isBlank)
  obtain ⟨rest, whole⟩ := kept
  have start := List.head?_dropWhile_not isBlank text
  rw [← whole, List.head?_append, Option.mem_def.mp first] at start
  exact start

theorem getLast?_trimChars {text : List Char} :
    ∀ c ∈ (trimChars text).getLast?, isBlank c = false := by
  intro c last
  have start := List.head?_dropWhile_not isBlank (text.dropWhile isBlank).reverse
  rw [trimChars, List.getLast?_reverse, Option.mem_def] at last
  rw [last] at start
  exact start

theorem isTrimmed_of_ends {text : String} (first : ∀ c ∈ text.toList.head?, isBlank c = false)
    (last : ∀ c ∈ text.toList.getLast?, isBlank c = false) : IsTrimmed text := by
  unfold IsTrimmed trim
  by_cases shown : text.toList = []
  · obtain rfl : text = "" := String.toList_eq_nil_iff.mp shown
    rfl
  · have kept : trimChars ([] ++ (text.toList ++ [])) = text.toList :=
      trimChars_of_blank shown (List.forall_mem_nil _) first last
    rw [List.nil_append, List.append_nil] at kept
    rw [kept, String.ofList_toList]

theorem isTrimmed_trim (text : String) : IsTrimmed (trim text) := by
  refine isTrimmed_of_ends ?_ ?_
  · rw [trim, String.toList_ofList]
    exact head?_trimChars
  · rw [trim, String.toList_ofList]
    exact getLast?_trimChars

theorem isTidy_trim {text : String} (shown : (trim text).isEmpty = false) : IsTidy (trim text) := by
  refine ⟨?_, isTrimmed_trim text⟩
  rintro none
  rw [none] at shown
  cases shown

theorem isTrimmed_of_unblank {text : String} (unblank : ∀ c ∈ text.toList, isBlank c = false) :
    IsTrimmed text :=
  isTrimmed_of_ends (fun c first => unblank c (List.mem_of_mem_head? first))
    fun c last => unblank c (List.mem_of_mem_getLast? last)

end Text

open Text

theorem Decimal.isTidy_ofInt (n : Int) : IsTidy (ofInt n) := by
  have tidy {characters : List Char} (shown : characters ≠ [])
      (unblank : ∀ c ∈ characters, isBlank c = false) : IsTidy (String.ofList characters) := by
    constructor
    case shown => simpa using shown
    case trimmed => exact isTrimmed_of_unblank (by rwa [String.toList_ofList])
  have digit {n : Nat} {c : Char} (member : c ∈ Nat.toDigits 10 n) : isBlank c = false :=
    Http.isBlank_of_isDigit (isDigit_of_mem member)
  cases n with
  | ofNat n => exact tidy Nat.toDigits_ne_nil fun c member => digit member
  | negSucc n =>
    refine tidy (List.cons_ne_nil _ _) fun c member => ?_
    rcases List.mem_cons.mp member with rfl | later
    · decide
    · exact digit later

/-- An item with a title, and with no blanks at the ends of its texts. -/
structure Item.Tidy (item : Item) : Prop where
  title : IsTidy item.title
  description : IsTrimmed item.description

structure ItemList.Tidy (list : ItemList) : Prop where
  name : IsTidy list.name
  items : ∀ item ∈ list.items, item.Tidy

structure Document.Tidy (document : Document) : Prop where
  objectId : IsTidy document.objectId
  name : IsTidy document.name
  titles : ∀ item ∈ document.items, IsTidy item.title
  descriptions : ∀ item ∈ document.items, IsTrimmed item.description

theorem ItemList.Tidy.item? {list : ItemList} (tidy : list.Tidy) {id : ItemId} {item : Item}
    (found : list.item? id = some item) : item.Tidy :=
  tidy.items item (item?_some found).1

theorem ItemList.Tidy.without {list : ItemList} (tidy : list.Tidy) (now : Timestamp) (id : ItemId) :
    (list.without now id).Tidy where
  name := list.without_name now id ▸ tidy.name
  items item member := tidy.items item ((list.items_without_sublist now id).mem member)

theorem ItemList.Tidy.joined {list : ItemList} (tidy : list.Tidy) (now : Timestamp) {item : Item}
    (fits : item.Tidy) : (list.joined now item).Tidy where
  name := tidy.name
  items other member := by
    rcases List.mem_append.mp ((sortBy_perm _).mem_iff.mp member) with old | new
    · exact tidy.items other old
    · exact List.mem_singleton.mp new ▸ fits

theorem Document.tidy_ofList {list : ItemList} (tidy : list.Tidy) :
    (Document.ofList list).Tidy := by
  have origin {item : ItemDocument} (member : item ∈ (Document.ofList list).items) :
      ∃ stored : Item, stored.Tidy ∧ ⟨stored.title, stored.description⟩ = item := by
    obtain ⟨stored, ordered, same⟩ := List.mem_map.mp member
    exact ⟨stored, tidy.items stored ((sortBy_perm _).mem_iff.mp ordered), same⟩
  constructor
  case objectId => exact Decimal.isTidy_ofInt _
  case name => exact tidy.name
  case titles =>
    intro item member
    obtain ⟨stored, tidy, rfl⟩ := origin member
    exact tidy.title
  case descriptions =>
    intro item member
    obtain ⟨stored, tidy, rfl⟩ := origin member
    exact tidy.description

def Store.Tidy (store : Store) : Prop :=
  ∀ id list, store.lists.get? id = some list → list.Tidy

/-- The texts that a call brings to the store are tidy. -/
def StoreCall.Tidy : StoreCall → Prop
  | .createList _ name => IsTidy name
  | .renameList _ name => IsTidy name
  | .insertItem _ title description _ => IsTidy title ∧ IsTrimmed description
  | .putItem item => item.Tidy
  | _ => True

/-- A list that the answer shows is tidy. -/
def StoreCall.ShowsTidy : (call : StoreCall) → call.Answer → Prop
  | .findList .., answer => ∀ found, answer = .ok (some found) → found.Tidy
  | .loadList _, answer => ∀ found, answer = .ok (some found) → found.Tidy
  | _, _ => True

/-- The texts that a call brings to the store or pushes to the index are tidy. -/
def Call.Tidy : Call → Prop
  | .store call => call.Tidy
  | .saveDocuments documents => ∀ document ∈ documents, document.Tidy
  | _ => True

def Call.ShowsTidy : (call : Call) → call.Answer → Prop
  | .store call, answer => call.ShowsTidy answer
  | _, _ => True

theorem StoreCall.showsTidy_error (call : StoreCall) (fault : StorageFault) :
    call.ShowsTidy (.error fault) := by
  cases call with
  | findList | loadList => exact nofun
  | _ => trivial

namespace Store

variable {store : Store}

theorem tidy_empty : Store.empty.Tidy := by
  intro id list found
  rw [show Store.empty.lists.get? id = none from rfl] at found
  cases found

/-- A change of one list keeps the store tidy if it keeps that list tidy. -/
theorem Tidy.change {after : Store} (tidy : store.Tidy) {list : ListId}
    {change : ItemList → ItemList}
    (lists : ∀ k, after.lists.get? k =
      if k = list then (store.lists.get? k).map change else store.lists.get? k)
    (keeps : ∀ found : ItemList, found.Tidy → (change found).Tidy) : after.Tidy := by
  intro id found there
  rw [lists] at there
  split at there
  · obtain ⟨before, stored, rfl⟩ := Option.map_eq_some_iff.mp there
    exact keeps before (tidy id before stored)
  · exact tidy id found there

theorem Tidy.putItem (tidy : store.Tidy) (now : Timestamp) {item : Item} (fits : item.Tidy) :
    (store.perform now (.putItem item)).2.Tidy := by
  intro id found there
  cases home : store.lists.get? item.list with
  | none =>
    rw [perform_putItem_of_none _ _ home] at there
    exact tidy id found there
  | some target =>
    rw [store.get?_putItem now id (Option.isSome_of_eq_some home)] at there
    split at there
    · obtain ⟨before, stored, rfl⟩ := Option.map_eq_some_iff.mp there
      exact ((tidy id before stored).without now item.id).joined now fits
    · obtain ⟨before, stored, rfl⟩ := Option.map_eq_some_iff.mp there
      exact (tidy id before stored).without now item.id

/-- A call that brings tidy texts keeps the store tidy. -/
theorem Tidy.perform (tidy : store.Tidy) (now : Timestamp) {call : StoreCall} (brings : call.Tidy) :
    (store.perform now call).2.Tidy := by
  cases call with
  | createList owner name =>
    intro id found there
    rw [get?_createList] at there
    split at there
    · obtain rfl := Option.some.inj there
      exact ⟨brings, List.forall_mem_nil _⟩
    · exact tidy id found there
  | findList | loadList | listIds | countItems => exact tidy
  | renameList list name =>
    exact tidy.change (store.get?_renameList now list · name) fun found fine =>
      ⟨brings, fine.items⟩
  | deleteList list owner =>
    intro id found there
    rw [get?_deleteList] at there
    split at there
    · cases there
    · exact tidy id found there
  | insertItem list title description position =>
    refine tidy.change (store.get?_insertItem now list · title description position)
      fun found fine => ⟨fine.name, fun item member => ?_⟩
    rcases List.mem_append.mp member with old | new
    · exact fine.items item old
    · rw [List.mem_singleton.mp new]
      exact ⟨brings.1, brings.2⟩
  | putItem item => exact tidy.putItem now brings
  | deleteItem list item =>
    exact tidy.change (store.get?_deleteItem now list · item) fun found fine =>
      fine.without now item
  | setItemCount list count =>
    exact tidy.change (store.get?_setItemCount now list · count) fun found fine =>
      ⟨fine.name, fine.items⟩

/-- A tidy store shows tidy lists. -/
theorem Tidy.shows (tidy : store.Tidy) (now : Timestamp) (call : StoreCall) :
    call.ShowsTidy (store.perform now call).1 := by
  cases call with
  | findList list user =>
    intro found shown
    exact tidy list found (findList_eq_some.mp (Except.ok.inj shown)).1
  | loadList list =>
    intro found shown
    exact tidy list found (Except.ok.inj shown)
  | _ => trivial

end Store

end ListKeeper
