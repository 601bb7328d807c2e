import ListKeeper.Id
import ListKeeper.Sorting
import ListKeeper.Time.Timestamp

namespace ListKeeper

/-- An item. Positions order the items of a list, and need not be consecutive, nor distinct. -/
structure Item where
  id : ItemId
  list : ListId
  title : String
  description : String
  position : Int32
  createdAt : Timestamp
  updatedAt : Timestamp
  deriving DecidableEq, Inhabited

def Item.new (now : Timestamp) (id : ItemId) (list : ListId) (title description : String)
    (position : Int32) : Item :=
  ⟨id, list, title, description, position, now, now⟩

/-- The canonical order: by position, then by number. -/
def Item.precedes (a b : Item) : Bool :=
  a.position < b.position || (a.position == b.position && a.id.number < b.id.number)

/-- A list with its owner and its items. -/
structure ItemList where
  id : ListId
  owner : UserId
  name : String
  /-- The number of items as last counted; the count may lag behind the items. -/
  itemCount : Int32
  items : List Item
  createdAt : Timestamp
  updatedAt : Timestamp
  deriving DecidableEq, Inhabited

namespace ItemList

def new (now : Timestamp) (id : ListId) (owner : UserId) (name : String) : ItemList :=
  ⟨id, owner, name, 0, [], now, now⟩

/-- The position of an appended item: one past the largest, or zero in an empty list. A position
past the largest 32-bit number is that number. -/
def nextPosition (list : ItemList) : Int32 :=
  match (list.items.map Item.position).max? with
  | some largest => saturatingNext largest
  | none => 0

/-- The item of a given number; of several, the first. -/
def item? (list : ItemList) (id : ItemId) : Option Item :=
  list.items.find? fun item => item.id == id

/-- The list without its first item of the given number, changed at `now` if there is one. -/
def without (list : ItemList) (now : Timestamp) (id : ItemId) : ItemList :=
  if (list.item? id).isSome then
    { list with items := list.items.eraseP fun item => item.id == id, updatedAt := now }
  else list

/-- The list with an item at its end, which becomes an item of this list at the next position. -/
def append (list : ItemList) (now : Timestamp) (item : Item) : ItemList :=
  { list with
    items := list.items ++
      [{ item with list := list.id, position := list.nextPosition, updatedAt := now }]
    updatedAt := now }

def ordered (list : ItemList) : List Item :=
  sortBy Item.precedes list.items

end ItemList

structure ListRow where
  id : Int32
  owner : Int32
  name : String
  itemCount : Int32
  createdAt : Timestamp
  updatedAt : Timestamp

structure ItemRow where
  id : Int32
  list : Int32
  title : String
  description : String
  position : Int32
  createdAt : Timestamp
  updatedAt : Timestamp

def Item.ofRow (row : ItemRow) : Item :=
  ⟨⟨row.id⟩, ⟨row.list⟩, row.title, row.description, row.position, row.createdAt, row.updatedAt⟩

/-- The list of a record and the records of its items, kept in their order. -/
def ItemList.ofRows (row : ListRow) (items : List ItemRow) : ItemList :=
  ⟨⟨row.id⟩, ⟨row.owner⟩, row.name, row.itemCount, items.map Item.ofRow, row.createdAt,
    row.updatedAt⟩

end ListKeeper
