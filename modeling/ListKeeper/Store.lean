import ListKeeper.Fault
import ListKeeper.ItemList
import ListKeeper.Table

namespace ListKeeper

/-- Lists with their items, and the next numbers that a list and an item get. -/
structure Store where
  lists : Table ListId ItemList
  nextList : Int32
  nextItem : Int32

/-- A store without lists. Numbers are given out from one on. -/
def Store.empty : Store :=
  ⟨.empty, 1, 1⟩

/-- The calls that a store answers. Those with an owner are restricted to the owner's lists. -/
inductive StoreCall where
  | createList (owner : UserId) (name : String)
  | findList (list : ListId) (owner : UserId)
  | loadList (list : ListId)
  /-- At most `limit` numbers of lists, above `after`, ascending. -/
  | listIds (after : Option ListId) (limit : Nat)
  | renameList (list : ListId) (name : String)
  | deleteList (list : ListId) (owner : UserId)
  | insertItem (list : ListId) (title description : String) (position : Int32)
  /-- Stores an item as it is in the list that it names, and in no other. -/
  | putItem (item : Item)
  | deleteItem (list : ListId) (item : ItemId)
  | countItems (list : ListId)
  | setItemCount (list : ListId) (count : Int32)
  deriving DecidableEq

/-- What a call brings when it succeeds. Deletions say whether anything was deleted. -/
abbrev StoreCall.Result : StoreCall → Type
  | .createList .. => ItemList
  | .findList .. => Option ItemList
  | .loadList _ => Option ItemList
  | .listIds .. => List ListId
  | .renameList .. => Unit
  | .deleteList .. => Bool
  | .insertItem .. => Item
  | .putItem _ => Unit
  | .deleteItem .. => Bool
  | .countItems _ => Int32
  | .setItemCount .. => Unit

/-- The answer to a call. -/
abbrev StoreCall.Answer (call : StoreCall) : Type :=
  Except StorageFault call.Result

/-- The numbers of a list's items, counted in 32 bits; more items than that count as the largest
number. -/
def ItemList.countOfItems (list : ItemList) : Int32 :=
  if list.items.length < 2147483648 then Int32.ofNat list.items.length else Int32.maxValue

namespace Store

/-- Stores a list as it is. Later numbers are beyond its own and those of its items. -/
def seed (store : Store) (list : ItemList) : Store where
  lists := store.lists.insert list.id list
  nextList := max store.nextList (saturatingNext list.id.number)
  nextItem := list.items.foldl (fun next item => max next (saturatingNext item.id.number))
    store.nextItem

/-- The numbers above `after`, at most `limit` of them. -/
def idsAfter (store : Store) (after : Option ListId) (limit : Nat) : List ListId :=
  (store.lists.keys.filter fun id =>
    match after with
    | some bound => bound.number < id.number
    | none => true).take limit

def createList (store : Store) (now : Timestamp) (owner : UserId) (name : String) :
    ItemList × Store :=
  let list := ItemList.new now ⟨store.nextList⟩ owner name
  (list, { store with lists := store.lists.insert list.id list, nextList := store.nextList + 1 })

def findList (store : Store) (list : ListId) (owner : UserId) : Option ItemList :=
  (store.lists.get? list).filter fun found => found.owner == owner

/-- Appends a new item, under the next number, to the items of a list. -/
def insertItem (store : Store) (now : Timestamp) (list : ListId) (title description : String)
    (position : Int32) : Item × Store :=
  let item := Item.new now ⟨store.nextItem⟩ list title description position
  (item, { store with
    lists := store.lists.modify list fun found =>
      { found with items := found.items ++ [item], updatedAt := now }
    nextItem := store.nextItem + 1 })

/-- Takes an item out of every list and puts it, as it is, in the list that it names, whose items
are then in canonical order. -/
def putItem (store : Store) (now : Timestamp) (item : Item) : Store :=
  let taken := store.lists.mapEntries fun _ list => list.without now item.id
  { store with
    lists := taken.modify item.list fun target =>
      { target with items := sortBy Item.precedes (target.items ++ [item]), updatedAt := now }
    nextItem := max store.nextItem (saturatingNext item.id.number) }

def deleteItem (store : Store) (now : Timestamp) (list : ListId) (item : ItemId) : Store :=
  { store with lists := store.lists.modify list fun found => found.without now item }

def perform (store : Store) (now : Timestamp) : (call : StoreCall) → call.Answer × Store
  | .createList owner name =>
    let (list, store) := store.createList now owner name
    (.ok list, store)
  | .findList list owner => (.ok (store.findList list owner), store)
  | .loadList list => (.ok (store.lists.get? list), store)
  | .listIds after limit => (.ok (store.idsAfter after limit), store)
  | .renameList list name =>
    match store.lists.get? list with
    | none => (.error (.listNotFound list), store)
    | some _ =>
      (.ok (), { store with
        lists := store.lists.modify list fun found => { found with name, updatedAt := now } })
  | .deleteList list owner =>
    match store.findList list owner with
    | none => (.ok false, store)
    | some _ => (.ok true, { store with lists := store.lists.erase list })
  | .insertItem list title description position =>
    match store.lists.get? list with
    | none => (.error (.listNotFound list), store)
    | some _ =>
      let (item, store) := store.insertItem now list title description position
      (.ok item, store)
  | .putItem item =>
    match store.lists.get? item.list with
    | none => (.error (.listNotFound item.list), store)
    | some _ => (.ok (), store.putItem now item)
  | .deleteItem list item =>
    match store.lists.get? list with
    | none => (.ok false, store)
    | some found => (.ok (found.item? item).isSome, store.deleteItem now list item)
  | .countItems list =>
    (.ok ((store.lists.get? list).elim 0 ItemList.countOfItems), store)
  | .setItemCount list count =>
    match store.lists.get? list with
    | none => (.error (.listNotFound list), store)
    | some _ =>
      (.ok (), { store with
        lists := store.lists.modify list fun found => { found with itemCount := count } })

end Store

end ListKeeper
