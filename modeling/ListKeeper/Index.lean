import ListKeeper.Document
import ListKeeper.Table

namespace ListKeeper

/-- Documents by their keys. -/
structure Index where
  documents : Table String Document

namespace Index

def empty : Index :=
  ⟨.empty⟩

/-- Stores documents one after the other, each in place of the one that has its key. -/
def save (index : Index) (documents : List Document) : Index :=
  ⟨documents.foldl (fun table document => table.insert document.objectId document)
    index.documents⟩

def delete (index : Index) (objectId : String) : Index :=
  ⟨index.documents.erase objectId⟩

def document? (index : Index) (objectId : String) : Option Document :=
  index.documents.get? objectId

end Index

end ListKeeper
