import ListKeeper.ItemList
import ListKeeper.Json.Value

namespace ListKeeper

structure ItemView where
  id : Int32
  list : Int32
  title : String
  description : String
  position : Int32
  createdAt : Timestamp
  updatedAt : Timestamp
  deriving DecidableEq

/-- A list as responses show it, with its items in canonical order. -/
structure ListView where
  id : Int32
  owner : Int32
  name : String
  itemCount : Int32
  items : List ItemView
  createdAt : Timestamp
  updatedAt : Timestamp
  deriving DecidableEq

def ItemView.ofItem (item : Item) : ItemView :=
  ⟨item.id.number, item.list.number, item.title, item.description, item.position, item.createdAt,
    item.updatedAt⟩

/-- The order of the items in a response: by position, then by number. -/
def ItemView.precedes (a b : ItemView) : Bool :=
  a.position < b.position || (a.position == b.position && a.id < b.id)

def ListView.ofList (list : ItemList) : ListView where
  id := list.id.number
  owner := list.owner.number
  name := list.name
  itemCount := list.itemCount
  items := sortBy ItemView.precedes (list.items.map ItemView.ofItem)
  createdAt := list.createdAt
  updatedAt := list.updatedAt

def ItemView.toJson (item : ItemView) : Json :=
  .object [("id", .ofInt32 item.id), ("list_id", .ofInt32 item.list), ("title", .text item.title),
    ("description", .text item.description), ("position", .ofInt32 item.position),
    ("created_at", .text item.createdAt.text), ("updated_at", .text item.updatedAt.text)]

def ListView.toJson (list : ListView) : Json :=
  .object [("id", .ofInt32 list.id), ("user_id", .ofInt32 list.owner), ("name", .text list.name),
    ("item_count", .ofInt32 list.itemCount), ("items", .array (list.items.map ItemView.toJson)),
    ("created_at", .text list.createdAt.text), ("updated_at", .text list.updatedAt.text)]

def Item.toJson (item : Item) : Json :=
  (ItemView.ofItem item).toJson

/-- A list with its items in the order in which they are stored. -/
def ItemList.toJson (list : ItemList) : Json :=
  .object [("id", .ofInt32 list.id.number), ("user_id", .ofInt32 list.owner.number),
    ("name", .text list.name), ("item_count", .ofInt32 list.itemCount),
    ("items", .array (list.items.map Item.toJson)), ("created_at", .text list.createdAt.text),
    ("updated_at", .text list.updatedAt.text)]

end ListKeeper
