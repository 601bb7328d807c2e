import ListKeeper.Json.Record

namespace ListKeeper.Http

structure NewList where
  name : String
  deriving DecidableEq

structure NewName where
  name : String
  deriving DecidableEq

structure NewItem where
  title : String
  description : String
  deriving DecidableEq

structure Destination where
  list : Int32
  deriving DecidableEq

def nameField : Json.Field (Option String) :=
  ⟨"name", Option.isSome, do
    let value ← Json.wantedString
    pure fun _ => some value⟩

def NewList.shape : Json.Shape (Option String) NewList where
  fields := [nameField]
  blank := none
  finish draft := draft.map NewList.mk

def NewName.shape : Json.Shape (Option String) NewName where
  fields := [nameField]
  blank := none
  finish draft := draft.map NewName.mk

structure NewItem.Draft where
  title : Option String
  description : Option String

/-- A new item has a title, and no description unless it says so. -/
def NewItem.shape : Json.Shape NewItem.Draft NewItem where
  fields := [
    ⟨"title", fun draft => draft.title.isSome, do
      let value ← Json.wantedString
      pure fun draft => { draft with title := some value }⟩,
    ⟨"description", fun draft => draft.description.isSome, do
      let value ← Json.wantedString
      pure fun draft => { draft with description := some value }⟩]
  blank := ⟨none, none⟩
  finish draft := draft.title.map fun title => ⟨title, draft.description.getD ""⟩

def Destination.shape : Json.Shape (Option Int32) Destination where
  fields := [
    ⟨"destination_list_id", Option.isSome, do
      let value ← Json.wantedInt32
      pure fun _ => some value⟩]
  blank := none
  finish draft := draft.map Destination.mk

end ListKeeper.Http
