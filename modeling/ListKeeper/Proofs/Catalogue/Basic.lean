import ListKeeper.ListView
import ListKeeper.Proofs.Request

namespace ListKeeper

/-- An item in its sequence. -/
structure Line where
  id : ItemId
  title : String
  description : String
  deriving DecidableEq

structure Sheet where
  owner : UserId
  name : String
  lines : List Line
  deriving DecidableEq

namespace Sheet

def line? (sheet : Sheet) (item : ItemId) : Option Line :=
  sheet.lines.find? fun line => line.id == item

def add (sheet : Sheet) (line : Line) : Sheet :=
  { sheet with lines := sheet.lines ++ [line] }

def remove (sheet : Sheet) (item : ItemId) : Sheet :=
  { sheet with lines := sheet.lines.eraseP fun line => line.id == item }

end Sheet

/-- The sheets by number, and how many lists and items there have ever been. -/
structure Catalogue where
  sheets : ListId → Option Sheet
  lists : Nat
  items : Nat

/-- What an answer shows. -/
inductive Shown where
  | sheet (list : ListId) (sheet : Sheet)
  | line (list : ListId) (line : Line)
  | done
  deriving DecidableEq

namespace Catalogue

open Operation (noList)

abbrev Verdict : Type :=
  Except RequestFault Shown

def empty : Catalogue :=
  ⟨fun _ => none, 0, 0⟩

def sheet? (catalogue : Catalogue) (list : ListId) (user : UserId) : Option Sheet :=
  (catalogue.sheets list).filter fun sheet => sheet.owner == user

def put (catalogue : Catalogue) (list : ListId) (sheet : Sheet) : Catalogue :=
  { catalogue with sheets := Function.update catalogue.sheets list (some sheet) }

def erase (catalogue : Catalogue) (list : ListId) : Catalogue :=
  { catalogue with sheets := Function.update catalogue.sheets list none }

section

variable (catalogue : Catalogue) (list k : ListId) (sheet : Sheet)

@[simp] theorem lists_put : (catalogue.put list sheet).lists = catalogue.lists := rfl

@[simp] theorem items_put : (catalogue.put list sheet).items = catalogue.items := rfl

theorem sheets_put : (catalogue.put list sheet).sheets k =
    if k = list then some sheet else catalogue.sheets k :=
  Function.update_apply ..

theorem sheets_erase : (catalogue.erase list).sheets k =
    if k = list then none else catalogue.sheets k :=
  Function.update_apply ..

end

def refuse (catalogue : Catalogue) (fault : RequestFault) : Verdict × Catalogue :=
  (.error fault, catalogue)

/-- Trims a text, which must not be blank. -/
def trimming (catalogue : Catalogue) (field value : String)
    (next : String → Verdict × Catalogue) : Verdict × Catalogue :=
  if (Text.trim value).isEmpty then catalogue.refuse (.badRequest (field ++ " must not be blank"))
  else next (Text.trim value)

/-- Looks for a sheet of the user. -/
def finding (catalogue : Catalogue) (list : ListId) (user : UserId)
    (next : Sheet → Verdict × Catalogue) : Verdict × Catalogue :=
  match catalogue.sheet? list user with
  | some sheet => next sheet
  | none => catalogue.refuse (noList list)

def createList (catalogue : Catalogue) (user : UserId) (name : String) : Verdict × Catalogue :=
  catalogue.trimming "name" name fun name =>
    let list : ListId := ⟨Int32.ofNat (catalogue.lists + 1)⟩
    (.ok (.sheet list ⟨user, name, []⟩),
      { catalogue.put list ⟨user, name, []⟩ with lists := catalogue.lists + 1 })

def getList (catalogue : Catalogue) (list : ListId) (user : UserId) : Verdict × Catalogue :=
  catalogue.finding list user fun sheet => (.ok (.sheet list sheet), catalogue)

def renameList (catalogue : Catalogue) (list : ListId) (user : UserId) (name : String) :
    Verdict × Catalogue :=
  catalogue.trimming "name" name fun name => catalogue.finding list user fun sheet =>
    (.ok (.sheet list { sheet with name }), catalogue.put list { sheet with name })

def deleteList (catalogue : Catalogue) (list : ListId) (user : UserId) : Verdict × Catalogue :=
  catalogue.finding list user fun _ => (.ok .done, catalogue.erase list)

def addItem (catalogue : Catalogue) (list : ListId) (user : UserId) (title description : String) :
    Verdict × Catalogue :=
  catalogue.trimming "title" title fun title => catalogue.finding list user fun sheet =>
    let line : Line := ⟨⟨Int32.ofNat (catalogue.items + 1)⟩, title, Text.trim description⟩
    (.ok (.line list line),
      { catalogue.put list (sheet.add line) with items := catalogue.items + 1 })

def deleteItem (catalogue : Catalogue) (list : ListId) (item : ItemId) (user : UserId) :
    Verdict × Catalogue :=
  catalogue.finding list user fun sheet =>
    if (sheet.line? item).isSome then (.ok .done, catalogue.put list (sheet.remove item))
    else catalogue.refuse (.notFound ("item " ++ item.text ++ " in list " ++ list.text))

def moveItem (catalogue : Catalogue) (origin : ListId) (item : ItemId) (destination : ListId)
    (user : UserId) : Verdict × Catalogue :=
  if origin = destination then
    catalogue.refuse
      (.badRequest ("item " ++ item.text ++ " is already in list " ++ origin.text))
  else
    match catalogue.sheet? destination user with
    | none =>
      catalogue.refuse (.badRequest ("destination list " ++ destination.text ++ " does not exist"))
    | some target =>
      match catalogue.sheet? origin user with
      | none =>
        catalogue.refuse (.badRequest ("origin list " ++ origin.text ++ " does not exist"))
      | some source =>
        match source.line? item with
        | none =>
          catalogue.refuse
            (.badRequest ("item " ++ item.text ++ " does not exist in list " ++ origin.text))
        | some line =>
          (.ok (.line destination line),
            (catalogue.put origin (source.remove item)).put destination (target.add line))

def perform (catalogue : Catalogue) : Request → Verdict × Catalogue
  | .createList user name => catalogue.createList user name
  | .getList list user => catalogue.getList list user
  | .renameList list user name => catalogue.renameList list user name
  | .deleteList list user => catalogue.deleteList list user
  | .addItem list user title description => catalogue.addItem list user title description
  | .deleteItem list item user => catalogue.deleteItem list item user
  | .moveItem origin item destination user => catalogue.moveItem origin item destination user
  | .reindex => (.ok .done, catalogue)

/-- The verdicts on requests made one after the other. -/
def verdicts (catalogue : Catalogue) : List Request → List Verdict
  | [] => []
  | request :: rest => (catalogue.perform request).1 :: (catalogue.perform request).2.verdicts rest

end Catalogue

end ListKeeper
