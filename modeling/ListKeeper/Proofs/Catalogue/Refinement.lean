import ListKeeper.Proofs.Catalogue.Basic
import ListKeeper.Proofs.Request.Effect
import ListKeeper.Proofs.Store.Items
import ListKeeper.Proofs.Store.Ordered

namespace ListKeeper

def Line.ofItem (item : Item) : Line :=
  ⟨item.id, item.title, item.description⟩

def Line.ofView (view : ItemView) : Line :=
  ⟨⟨view.id⟩, view.title, view.description⟩

/-- A list as responses show it, without its times and positions. -/
def Sheet.ofView (view : ListView) : Sheet :=
  ⟨⟨view.owner⟩, view.name, view.items.map Line.ofView⟩

def Request.Answer.shown : Request.Answer → Shown
  | .list found => .sheet ⟨(ListView.ofList found).id⟩ (Sheet.ofView (ListView.ofList found))
  | .item found => .line found.list (Line.ofItem found)
  | .done => .done
  | .reached _ => .done

theorem Sheet.ofView_ofList (list : ItemList) :
    Sheet.ofView (ListView.ofList list) =
      ⟨list.owner, list.name, list.ordered.map Line.ofItem⟩ := by
  simp only [ofView, list.items_ofList, List.map_map]
  rfl

/-- A list stands for a sheet: its items are the lines, in the order in which they are shown, and
their positions are below a bound. -/
structure Lists (bound : Nat) (list : ItemList) (sheet : Sheet) : Prop where
  owner : list.owner = sheet.owner
  name : list.name = sheet.name
  lines : list.ordered.map Line.ofItem = sheet.lines
  within : list.Within bound

namespace Lists

variable {bound : Nat} {list : ItemList} {sheet : Sheet}

theorem mono {larger : Nat} (lists : Lists bound list sheet) (order : bound ≤ larger) :
    Lists larger list sheet :=
  ⟨lists.owner, lists.name, lists.lines, lists.within.mono order⟩

theorem view (lists : Lists bound list sheet) : Sheet.ofView (ListView.ofList list) = sheet := by
  rw [Sheet.ofView_ofList, lists.owner, lists.name, lists.lines]

theorem line? (lists : Lists bound list sheet) (distinct : (list.items.map Item.id).Nodup)
    (item : ItemId) : sheet.line? item = (list.item? item).map Line.ofItem := by
  rw [← ItemList.find?_ordered distinct item, Sheet.line?, ← lists.lines, List.find?_map]
  rfl

theorem rename (lists : Lists bound list sheet) (now : Timestamp) (name : String) :
    Lists bound { list with name, updatedAt := now } { sheet with name } :=
  ⟨lists.owner, rfl, lists.lines, lists.within⟩

theorem remove (lists : Lists bound list sheet) (distinct : (list.items.map Item.id).Nodup)
    (now : Timestamp) (item : ItemId) :
    Lists bound (list.without now item) (sheet.remove item) := by
  refine ⟨(list.without_owner now item).trans lists.owner,
    (list.without_name now item).trans lists.name, ?_, fun other member => ?_⟩
  · rw [ItemList.ordered_without distinct, Sheet.remove, ← lists.lines, List.eraseP_map]
    rfl
  · exact lists.within other ((list.items_without_sublist now item).mem member)

/-- A list with one item more, at the next position, stands for the sheet with one line more. -/
theorem add {after : ItemList} {item : Item} (lists : Lists bound list sheet)
    (distinct : (list.items.map Item.id).Nodup) (fresh : ∀ other ∈ list.items, other.id ≠ item.id)
    (owner : after.owner = list.owner) (name : after.name = list.name)
    (perm : after.items.Perm (list.items ++ [item]))
    (last : item.position = list.nextPosition) (room : bound < 2147483647) :
    Lists (bound + 1) after (sheet.add (Line.ofItem item)) := by
  obtain ⟨fits, above⟩ := lists.within.nextPosition room
  have still : (after.items.map Item.id).Nodup := by
    rw [(perm.map _).nodup_iff, List.map_append, List.nodup_append]
    refine ⟨distinct, List.nodup_singleton _, fun number member number' single => ?_⟩
    obtain ⟨other, old, rfl⟩ := List.mem_map.mp member
    rw [List.mem_singleton.mp single]
    exact fresh other old
  refine ⟨owner.trans lists.owner, name.trans lists.name, ?_, fun other member => ?_⟩
  · rw [ItemList.ordered_of_last still perm fun other there => last ▸ above other there,
      List.map_append, lists.lines]
    rfl
  · rcases List.mem_append.mp (perm.mem_iff.mp member) with old | new
    · exact lists.within.mono (Nat.le_succ bound) other old
    · rw [List.mem_singleton.mp new, last]
      exact fits

end Lists

/-- A store stands for a catalogue, after a number of requests. -/
structure Refines (requests : Nat) (store : Store) (catalogue : Catalogue) : Prop where
  sheets : ∀ id, Option.Rel (Lists requests) (store.lists.get? id) (catalogue.sheets id)
  nextList : store.nextList = Int32.ofNat (catalogue.lists + 1)
  nextItem : store.nextItem = Int32.ofNat (catalogue.items + 1)
  fewLists : catalogue.lists ≤ requests
  fewItems : catalogue.items ≤ requests

/-- A request comes to the same in a store and in its catalogue. -/
structure Agrees (requests : Nat) (outcome : Request.Outcome)
    (answer : Catalogue.Verdict × Catalogue) : Prop where
  verdict : outcome.result.map Request.Answer.shown = answer.1
  refines : Refines (requests + 1) outcome.store answer.2

theorem rel_mono {bound larger : Nat} (order : bound ≤ larger) {list : Option ItemList}
    {sheet : Option Sheet} (stands : Option.Rel (Lists bound) list sheet) :
    Option.Rel (Lists larger) list sheet := by
  cases stands with
  | some lists => exact .some (lists.mono order)
  | none => exact .none

theorem toInt_ofNat_succ {n : Nat} (room : n < 2147483647) :
    (Int32.ofNat (n + 1)).toInt = (n + 1 : Nat) :=
  Int32.toInt_ofNat_of_lt (by omega)

theorem ofNat_le_add_one {n : Nat} (room : n + 1 < 2147483647) :
    Int32.ofNat (n + 1) ≤ Int32.ofNat (n + 1) + 1 := by
  have value := toInt_ofNat_succ (n := n) (by omega)
  have free : Int32.ofNat (n + 1) ≠ Int32.maxValue := by
    intro full
    rw [full] at value
    have size : Int32.maxValue.toInt = 2147483647 := rfl
    omega
  have next := toInt_add_one free
  exact Int32.le_iff_toInt_le.mpr (by omega)

namespace Refines

variable {requests : Nat} {store after : Store} {catalogue : Catalogue} {list : ListId}
  {user : UserId}

theorem mono (refines : Refines requests store catalogue) :
    Refines (requests + 1) store catalogue where
  sheets id := rel_mono (Nat.le_succ requests) (refines.sheets id)
  nextList := refines.nextList
  nextItem := refines.nextItem
  fewLists := refines.fewLists.trans (Nat.le_succ requests)
  fewItems := refines.fewItems.trans (Nat.le_succ requests)

theorem missing (refines : Refines requests store catalogue)
    (absent : store.findList list user = none) : catalogue.sheet? list user = none := by
  have stands := refines.sheets list
  unfold Store.findList at absent
  unfold Catalogue.sheet?
  generalize store.lists.get? list = found at stands absent
  generalize catalogue.sheets list = sheet at stands
  cases stands with
  | none => rfl
  | some lists => simpa [lists.owner] using absent

theorem found (refines : Refines requests store catalogue) {found : ItemList}
    (owned : store.findList list user = some found) :
    ∃ sheet, catalogue.sheet? list user = some sheet ∧ Lists requests found sheet := by
  obtain ⟨there, owner⟩ := Store.findList_eq_some.mp owned
  have stands := refines.sheets list
  rw [there] at stands
  cases sheet : catalogue.sheets list with
  | none => rw [sheet] at stands; cases stands
  | some sheet' =>
    rw [sheet] at stands
    cases stands with
    | some lists =>
      refine ⟨sheet', ?_, lists⟩
      rw [Catalogue.sheet?, sheet, Option.filter_some, ← lists.owner, owner, if_pos (beq_self_eq_true user)]

/-- One list has changed, and so has its sheet. -/
theorem sheets_put (refines : Refines requests store catalogue) {found : ItemList} {sheet : Sheet}
    {change : ItemList → ItemList} (there : store.lists.get? list = some found)
    (lists : ∀ k, after.lists.get? k =
      if k = list then (store.lists.get? k).map change else store.lists.get? k)
    (stands : Lists (requests + 1) (change found) sheet) (k : ListId) :
    Option.Rel (Lists (requests + 1)) (after.lists.get? k)
      ((catalogue.put list sheet).sheets k) := by
  rw [lists, Catalogue.sheets_put]
  by_cases here : k = list
  · subst here
    rw [if_pos rfl, there, if_pos rfl]
    exact .some stands
  · rw [if_neg here, if_neg here]
    exact rel_mono (Nat.le_succ requests) (refines.sheets k)

/-- One list is gone, and so is its sheet. -/
theorem sheets_erase (refines : Refines requests store catalogue)
    (lists : ∀ k, after.lists.get? k = if k = list then none else store.lists.get? k)
    (k : ListId) :
    Option.Rel (Lists (requests + 1)) (after.lists.get? k) ((catalogue.erase list).sheets k) := by
  rw [lists, Catalogue.sheets_erase]
  by_cases here : k = list
  · rw [if_pos here, if_pos here]
    exact .none
  · rw [if_neg here, if_neg here]
    exact rel_mono (Nat.le_succ requests) (refines.sheets k)

theorem nextList_le (refines : Refines requests store catalogue) (room : requests + 1 < 2147483647) :
    store.nextList ≤ store.nextList + 1 := by
  have few := refines.fewLists
  rw [refines.nextList]
  exact ofNat_le_add_one (by omega)

theorem nextItem_le (refines : Refines requests store catalogue) (room : requests + 1 < 2147483647) :
    store.nextItem ≤ store.nextItem + 1 := by
  have few := refines.fewItems
  rw [refines.nextItem]
  exact ofNat_le_add_one (by omega)

end Refines

section

open Request (Outcome)

variable {requests : Nat} {store : Store} {catalogue : Catalogue}

theorem agrees_refused (refines : Refines requests store catalogue) (fault : RequestFault) :
    Agrees requests (Outcome.refused store fault) (catalogue.refuse fault) :=
  ⟨rfl, refines.mono⟩

theorem agrees_trimming (refines : Refines requests store catalogue) {field value : String}
    {next : String → Outcome} {next' : String → Catalogue.Verdict × Catalogue}
    (later : ∀ text, Agrees requests (next text) (next' text)) :
    Agrees requests (Outcome.trimming store field value next)
      (catalogue.trimming field value next') := by
  unfold Outcome.trimming Catalogue.trimming
  split
  · exact agrees_refused refines _
  · exact later _

theorem agrees_finding (refines : Refines requests store catalogue) {list : ListId} {user : UserId}
    {next : ItemList → Outcome} {next' : Sheet → Catalogue.Verdict × Catalogue}
    (later : ∀ found sheet, store.findList list user = some found → Lists requests found sheet →
      Agrees requests (next found) (next' sheet)) :
    Agrees requests (Outcome.finding store list user next)
      (catalogue.finding list user next') := by
  unfold Outcome.finding Catalogue.finding
  cases owned : store.findList list user with
  | none =>
    rw [refines.missing owned]
    exact agrees_refused refines _
  | some found =>
    obtain ⟨sheet, given, lists⟩ := refines.found owned
    rw [given]
    exact later found sheet owned lists

variable (clock : Nat → Timestamp)

theorem agrees_createList (refines : Refines requests store catalogue) (user : UserId)
    (name : String) :
    Agrees requests (Outcome.createList store clock user name)
      (catalogue.createList user name) := by
  unfold Outcome.createList Catalogue.createList
  refine agrees_trimming refines fun text => ?_
  have fresh : Lists (requests + 1) (ItemList.new (clock 0) ⟨store.nextList⟩ user text)
      ⟨user, text, []⟩ := ⟨rfl, rfl, rfl, fun _ member => by cases member⟩
  have fewLists := refines.fewLists
  refine ⟨?_, fun k => ?_, ?_, refines.nextItem, Nat.succ_le_succ fewLists, refines.mono.fewItems⟩
  · change Except.ok (Shown.sheet ⟨store.nextList⟩ (Sheet.ofView (ListView.ofList
      (ItemList.new (clock 0) ⟨store.nextList⟩ user text)))) = _
    rw [fresh.view, refines.nextList]
  · rw [Store.get?_createList, Catalogue.sheets_put, refines.nextList]
    split
    · exact .some (refines.nextList ▸ fresh)
    · exact refines.mono.sheets k
  · change store.nextList + 1 = Int32.ofNat (catalogue.lists + 1 + 1)
    rw [refines.nextList, Int32.ofNat_add (catalogue.lists + 1) 1]
    rfl

theorem agrees_getList (refines : Refines requests store catalogue) (list : ListId)
    (user : UserId) (sound : store.Sound) :
    Agrees requests (Outcome.getList store list user) (catalogue.getList list user) := by
  refine agrees_finding refines fun found sheet owned lists => ⟨?_, refines.mono⟩
  have number : found.id = list := sound.keyed list found (Store.findList_eq_some.mp owned).1
  change Except.ok (Shown.sheet found.id (Sheet.ofView (ListView.ofList found))) = _
  rw [lists.view, number]

theorem agrees_renameList (refines : Refines requests store catalogue) (list : ListId)
    (user : UserId) (name : String) (sound : store.Sound) :
    Agrees requests (Outcome.renameList store clock list user name)
      (catalogue.renameList list user name) := by
  refine agrees_trimming refines fun text => agrees_finding refines fun found sheet owned lists => ?_
  have there := (Store.findList_eq_some.mp owned).1
  have number : found.id = list := sound.keyed list found there
  have renamed := lists.rename (clock 1) text
  refine ⟨?_, ?_, ?_, ?_, refines.mono.fewLists, refines.mono.fewItems⟩
  · change Except.ok (Shown.sheet found.id (Sheet.ofView (ListView.ofList _))) = _
    rw [renamed.view, number]
  · exact refines.sheets_put there (fun k => store.get?_renameList (clock 1) list k text)
      (renamed.mono (Nat.le_succ requests))
  · exact (Store.nextList_perform (by simp)).trans refines.nextList
  · exact (Store.nextItem_perform (by simp) (by simp)).trans refines.nextItem

theorem agrees_deleteList (refines : Refines requests store catalogue) (list : ListId)
    (user : UserId) :
    Agrees requests (Outcome.deleteList store clock list user)
      (catalogue.deleteList list user) := by
  refine agrees_finding refines fun found sheet owned lists => ?_
  refine ⟨rfl, ?_, ?_, ?_, refines.mono.fewLists, refines.mono.fewItems⟩
  · refine refines.sheets_erase fun k => ?_
    rw [Store.get?_deleteList, owned]
    simp
  · exact (Store.nextList_perform (by simp)).trans refines.nextList
  · exact (Store.nextItem_perform (by simp) (by simp)).trans refines.nextItem

theorem agrees_addItem (refines : Refines requests store catalogue) (list : ListId)
    (user : UserId) (title description : String) (sound : store.Sound)
    (room : requests + 1 < 2147483647) :
    Agrees requests (Outcome.addItem store clock list user title description)
      (catalogue.addItem list user title description) := by
  refine agrees_trimming refines fun text => agrees_finding refines fun found sheet owned lists => ?_
  have there := (Store.findList_eq_some.mp owned).1
  let item := Item.new (clock 1) ⟨store.nextItem⟩ list text (Text.trim description)
    found.nextPosition
  have line : Line.ofItem item =
      ⟨⟨Int32.ofNat (catalogue.items + 1)⟩, text, Text.trim description⟩ := by
    rw [← refines.nextItem]
    rfl
  have fresh : ∀ other ∈ found.items, other.id ≠ item.id := by
    intro other member same
    have below := (sound.itemNumbers list found there other member).lt (refines.nextItem_le room)
    rw [same] at below
    exact Int32.lt_irrefl below
  have fewItems := refines.fewItems
  refine ⟨?_, ?_, ?_, ?_, refines.mono.fewLists, Nat.succ_le_succ fewItems⟩
  · change Except.ok (Shown.line list (Line.ofItem item)) = _
    rw [line]
  · rw [← line]
    refine refines.sheets_put there (fun k => store.get?_insertItem (clock 1) list k text
      (Text.trim description) found.nextPosition) ?_
    exact lists.add (sound.distinct list found there) fresh rfl rfl (.refl _) rfl (by omega)
  · exact (Store.nextList_perform (by simp)).trans refines.nextList
  · have next : (store.perform (clock 1) (.insertItem list text (Text.trim description)
        found.nextPosition)).2.nextItem = store.nextItem + 1 := by
      simp only [Store.perform, there, Store.insertItem]
    rw [next, refines.nextItem]
    exact (Int32.ofNat_add (catalogue.items + 1) 1).symm

theorem agrees_deleteItem (refines : Refines requests store catalogue) (list : ListId)
    (item : ItemId) (user : UserId) (sound : store.Sound) :
    Agrees requests (Outcome.deleteItem store clock list item user)
      (catalogue.deleteItem list item user) := by
  refine agrees_finding refines fun found sheet owned lists => ?_
  have there := (Store.findList_eq_some.mp owned).1
  have distinct := sound.distinct list found there
  rw [lists.line? distinct, Option.isSome_map]
  split
  · refine ⟨rfl, ?_, ?_, ?_, refines.mono.fewLists, refines.mono.fewItems⟩
    · exact refines.sheets_put there (fun k => store.get?_deleteItem (clock 1) list k item)
        ((lists.remove distinct (clock 1) item).mono (Nat.le_succ requests))
    · exact (Store.nextList_perform (by simp)).trans refines.nextList
    · exact (Store.nextItem_perform (by simp) (by simp)).trans refines.nextItem
  · exact agrees_refused refines _

theorem agrees_moveItem (refines : Refines requests store catalogue) (origin : ListId)
    (item : ItemId) (destination : ListId) (user : UserId) (sound : store.Sound)
    (room : requests + 1 < 2147483647) :
    Agrees requests (Outcome.moveItem store clock origin item destination user)
      (catalogue.moveItem origin item destination user) := by
  unfold Outcome.moveItem Catalogue.moveItem
  by_cases apart : origin = destination
  · rw [if_pos apart, if_pos apart]
    exact agrees_refused refines _
  rw [if_neg apart, if_neg apart]
  cases other : store.findList destination user with
  | none =>
    rw [refines.missing other]
    exact agrees_refused refines _
  | some target =>
  obtain ⟨targetSheet, given, targetLists⟩ := refines.found other
  rw [given]
  cases owned : store.findList origin user with
  | none =>
    simp only [refines.missing owned]
    exact agrees_refused refines _
  | some source =>
  obtain ⟨sourceSheet, given', sourceLists⟩ := refines.found owned
  have first := (Store.findList_eq_some.mp owned).1
  have second := (Store.findList_eq_some.mp other).1
  have distinct := sound.distinct origin source first
  simp only [given', sourceLists.line? distinct]
  cases here : source.item? item with
  | none =>
    simp only [Option.map_none]
    exact agrees_refused refines _
  | some stored =>
  obtain ⟨member, rfl⟩ := ItemList.item?_some here
  simp only [Option.map_some]
  let moved : Item := { stored with list := destination, position := target.nextPosition }
  have held : store.Holds origin moved.id := ⟨stored, ⟨source, first, member⟩, rfl⟩
  have home : (store.lists.get? moved.list).isSome := by
    change (store.lists.get? destination).isSome
    rw [second]
    rfl
  have fresh : ∀ x ∈ target.items, x.id ≠ moved.id := by
    intro x inside same
    exact apart (sound.apart origin source first destination target second stored member x inside
      same.symm)
  have added : Lists (requests + 1) (target.joined (clock 3) moved)
      (targetSheet.add (Line.ofItem moved)) :=
    targetLists.add (sound.distinct destination target second) fresh rfl rfl (sortBy_perm _) rfl
      (by omega)
  have removed := (sourceLists.remove distinct (clock 2) stored.id).mono (Nat.le_succ requests)
  have taken : ((store.perform (clock 2) (.deleteItem origin stored.id)).2.lists.get?
      moved.list).isSome := by
    rw [Store.get?_deleteItem, if_neg (Ne.symm apart)]
    exact home
  have used : UsedUp moved.id.number
      (store.perform (clock 2) (.deleteItem origin stored.id)).2.nextItem := by
    rw [Store.nextItem_perform (by simp) (by simp)]
    exact sound.itemNumbers origin source first stored member
  refine ⟨rfl, fun k => ?_, ?_, ?_, refines.mono.fewLists, refines.mono.fewItems⟩
  · refine (sound.unique.get?_move held apart home k).symm ▸ ?_
    rw [Catalogue.sheets_put, Catalogue.sheets_put]
    by_cases here : k = destination
    · rw [if_pos here, if_pos here, here, second]
      exact .some added
    · rw [if_neg here, if_neg here]
      by_cases there : k = origin
      · rw [if_pos there, if_pos there, there, first]
        exact .some removed
      · rw [if_neg there, if_neg there]
        exact refines.mono.sheets k
  · exact (Store.nextList_perform (by simp)).trans
      ((Store.nextList_perform (by simp)).trans refines.nextList)
  · exact (Store.nextItem_putItem_of_used taken used).trans
      ((Store.nextItem_perform (by simp) (by simp)).trans refines.nextItem)

/-- A request comes to the same in a store and in the catalogue that it stands for. -/
theorem agrees_outcome {backend : Backend} (refines : Refines requests backend.store catalogue)
    (request : Request) (sound : backend.store.Sound) (room : requests + 1 < 2147483647) :
    Agrees requests (request.outcome backend clock) (catalogue.perform request) := by
  cases request with
  | createList user name => exact agrees_createList clock refines user name
  | getList list user => exact agrees_getList refines list user sound
  | renameList list user name => exact agrees_renameList clock refines list user name sound
  | deleteList list user => exact agrees_deleteList clock refines list user
  | addItem list user title description =>
    exact agrees_addItem clock refines list user title description sound room
  | deleteItem list item user => exact agrees_deleteItem clock refines list item user sound
  | moveItem origin item destination user =>
    exact agrees_moveItem clock refines origin item destination user sound room
  | reindex => exact ⟨rfl, refines.mono⟩

end

/-- What is left of each request when they are run one after the other, each to its end. -/
def Backend.answers (backend : Backend) : List (Request × (Nat → Timestamp)) → List (Job Request.Result)
  | [] => []
  | (request, clock) :: rest =>
    let progress := request.job.advance (serve clock none) (backend, 0)
    progress.rest :: progress.state.1.answers rest

/-- The verdict on a request that has come to its end. -/
def verdict? : Job Request.Result → Option Catalogue.Verdict
  | .done result => some (result.map Request.Answer.shown)
  | _ => none

theorem refines_empty : Refines 0 Store.empty Catalogue.empty :=
  ⟨fun _ => .none, rfl, rfl, le_refl _, le_refl _⟩

theorem answers_of_refines {requests : Nat} {backend : Backend} {catalogue : Catalogue}
    (sound : backend.store.Sound) (refines : Refines requests backend.store catalogue)
    (served : List (Request × (Nat → Timestamp))) (few : requests + served.length < 2147483647) :
    (backend.answers served).map verdict? =
      (catalogue.verdicts (served.map Prod.fst)).map some := by
  induction served generalizing requests backend catalogue with
  | nil => rfl
  | cons head rest ih =>
    obtain ⟨request, clock⟩ := head
    rw [List.length_cons] at few
    have room : requests + 1 < 2147483647 := by omega
    have ends : Request.Ends (request.job.advance (Backend.serve clock none) (backend, 0)) backend
      (request.outcome backend clock).result (request.outcome backend clock).store
      (request.outcome backend clock).events := Request.ends_job request
    have agrees := agrees_outcome clock refines request sound room
    have effect := Request.fits_outcome request clock backend
    have left : (request.job.advance (Backend.serve clock none) (backend, 0)).state.1.store =
        (request.outcome backend clock).store := by
      rw [ends.state, Backend.store_publishAll]
    have still : (request.outcome backend clock).store.Sound :=
      effect.sound sound (effect.unwrapped (refines.nextList_le room) (refines.nextItem_le room))
    simp only [Backend.answers, Catalogue.verdicts, List.map_cons, ends.rest, verdict?,
      agrees.verdict]
    rw [ih (left ▸ still) (left ▸ agrees.refines) (by omega)]

/-- From an empty store on, requests made one after the other, fewer than the numbers reach, get
the answers of the catalogue: the same lists, names and items in the same order, and the same
faults. -/
theorem answers_as_catalogue (backend : Backend) (empty : backend.store = .empty)
    (served : List (Request × (Nat → Timestamp))) (few : served.length < 2 ^ 31 - 1) :
    (backend.answers served).map verdict? =
      (Catalogue.empty.verdicts (served.map Prod.fst)).map some :=
  answers_of_refines (empty ▸ Store.sound_empty) (empty ▸ refines_empty) served (by omega)

/-- A user moves the first of two items to another list, where it is last. -/
def shopping : List (Request × (Nat → Timestamp)) :=
  [.createList ⟨1⟩ " groceries ", .createList ⟨1⟩ "errands", .addItem ⟨1⟩ ⟨1⟩ "milk" "",
    .addItem ⟨1⟩ ⟨1⟩ "bread" "", .addItem ⟨2⟩ ⟨1⟩ "post" "", .moveItem ⟨1⟩ ⟨1⟩ ⟨2⟩ ⟨1⟩,
    .getList ⟨1⟩ ⟨1⟩, .getList ⟨2⟩ ⟨1⟩, .getList ⟨2⟩ ⟨7⟩].map fun request => (request, fun _ => default)

theorem answers_as_catalogue_shopping :
    shopping.length < 2 ^ 31 - 1 ∧
      ((Backend.mk .empty .empty (.new 1) []).answers shopping).map verdict? =
        [some (.ok (.sheet ⟨1⟩ ⟨⟨1⟩, "groceries", []⟩)), some (.ok (.sheet ⟨2⟩ ⟨⟨1⟩, "errands", []⟩)),
          some (.ok (.line ⟨1⟩ ⟨⟨1⟩, "milk", ""⟩)), some (.ok (.line ⟨1⟩ ⟨⟨2⟩, "bread", ""⟩)),
          some (.ok (.line ⟨2⟩ ⟨⟨3⟩, "post", ""⟩)), some (.ok (.line ⟨2⟩ ⟨⟨1⟩, "milk", ""⟩)),
          some (.ok (.sheet ⟨1⟩ ⟨⟨1⟩, "groceries", [⟨⟨2⟩, "bread", ""⟩]⟩)),
          some (.ok (.sheet ⟨2⟩ ⟨⟨1⟩, "errands", [⟨⟨3⟩, "post", ""⟩, ⟨⟨1⟩, "milk", ""⟩]⟩)),
          some (.error (.notFound "list 2"))] :=
  ⟨by decide, (answers_as_catalogue _ rfl shopping (by decide)).trans (by decide)⟩

end ListKeeper
