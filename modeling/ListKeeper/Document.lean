import ListKeeper.ItemList
import ListKeeper.Json.Value
import ListKeeper.Json.Record

namespace ListKeeper

/-- The searchable text of one item. -/
structure ItemDocument where
  title : String
  description : String
  deriving DecidableEq, Inhabited

/-- The searchable text of one list, with its items in canonical order. -/
structure Document where
  objectId : String
  owner : UserId
  name : String
  items : List ItemDocument
  deriving DecidableEq, Inhabited

def Document.keyOf (list : ListId) : String :=
  list.text

def Document.ofList (list : ItemList) : Document where
  objectId := Document.keyOf list.id
  owner := list.owner
  name := list.name
  items := list.ordered.map fun item => ⟨item.title, item.description⟩

def ItemDocument.toJson (item : ItemDocument) : Json :=
  .object [("title", .text item.title), ("description", .text item.description)]

def Document.toJson (document : Document) : Json :=
  .object [("objectID", .text document.objectId), ("userId", .ofInt32 document.owner.number),
    ("name", .text document.name), ("items", .array (document.items.map ItemDocument.toJson))]

def Document.print (document : Document) : String :=
  String.ofList document.toJson.print

structure ItemDocument.Draft where
  title : Option String
  description : Option String

def ItemDocument.shape : Json.Shape ItemDocument.Draft ItemDocument where
  fields := [
    ⟨"title", fun draft => draft.title.isSome, do
      let value ← Json.wantedString
      pure fun draft => { draft with title := some value }⟩,
    ⟨"description", fun draft => draft.description.isSome, do
      let value ← Json.wantedString
      pure fun draft => { draft with description := some value }⟩]
  blank := ⟨none, none⟩
  finish draft := do
    return ⟨← draft.title, ← draft.description⟩

structure Document.Draft where
  objectId : Option String
  owner : Option UserId
  name : Option String
  items : Option (List ItemDocument)

def Document.shape : Json.Shape Document.Draft Document where
  fields := [
    ⟨"objectID", fun draft => draft.objectId.isSome, do
      let value ← Json.wantedString
      pure fun draft => { draft with objectId := some value }⟩,
    ⟨"userId", fun draft => draft.owner.isSome, do
      let value ← Json.wantedInt32
      pure fun draft => { draft with owner := some ⟨value⟩ }⟩,
    ⟨"name", fun draft => draft.name.isSome, do
      let value ← Json.wantedString
      pure fun draft => { draft with name := some value }⟩,
    ⟨"items", fun draft => draft.items.isSome, do
      let value ← Json.wantedArray (Json.wantedRecord ItemDocument.shape)
      pure fun draft => { draft with items := some value }⟩]
  blank := ⟨none, none, none, none⟩
  finish draft := do
    return ⟨← draft.objectId, ← draft.owner, ← draft.name, ← draft.items⟩

def Document.read (text : String) : Except ReadFault Document :=
  Json.readDocument (Json.wantedRecord Document.shape) text

end ListKeeper
