import ListKeeper.Backend
import ListKeeper.Text.Blank

/-!
What users do with their lists.

Every change follows one pattern: check the request, write to the store, then publish an event
for each list that changed. A user sees and changes only lists of their own; any other list is
not found. Text is stored without blanks at its ends.
-/
namespace ListKeeper

/-- A job on behalf of a user. -/
abbrev Operation (α : Type) := Attempt RequestFault α

namespace Operation

/-- A storage fault that stopped an activity. -/
def stopped (activity : String) (fault : StorageFault) : RequestFault :=
  .unexpected activity (.storage fault)

/-- A list that does not exist for the user. -/
def noList (list : ListId) : RequestFault :=
  .notFound ("list " ++ list.text)

/-- Text that must not be blank, trimmed. -/
def required (field value : String) : Operation String :=
  if (Text.trim value).isEmpty then throw (.badRequest (field ++ " must not be blank"))
  else pure (Text.trim value)

def publish (topic : Topic) (list : ListId) : Operation Unit := do
  let _ ← Job.publish topic (.list list)

def ownedList (list : ListId) (user : UserId) : Operation ItemList := do
  match ← Attempt.store (.findList list user) (stopped ("loading list " ++ list.text)) with
  | some found => pure found
  | none => throw (noList list)

def createList (user : UserId) (name : String) : Operation ItemList := do
  let name ← required "name" name
  let list ← Attempt.store (.createList user name) (stopped "creating list")
  publish .listCreated list.id
  pure list

def getList (list : ListId) (user : UserId) : Operation ItemList :=
  ownedList list user

/-- Renames a list and returns it as it is stored afterwards. -/
def renameList (list : ListId) (user : UserId) (name : String) : Operation ItemList := do
  let name ← required "name" name
  let _ ← ownedList list user
  Attempt.store (.renameList list name) fun fault =>
    match fault with
    | .listNotFound _ => noList list
    | fault => stopped ("renaming list " ++ list.text) fault
  publish .listUpdated list
  ownedList list user

def deleteList (list : ListId) (user : UserId) : Operation Unit := do
  if ← Attempt.store (.deleteList list user) (stopped ("deleting list " ++ list.text)) then
    publish .listDeleted list
  else throw (noList list)

def addItem (list : ListId) (user : UserId) (title description : String) : Operation Item := do
  let title ← required "title" title
  let found ← ownedList list user
  let item ← Attempt.store
    (.insertItem list title (Text.trim description) found.nextPosition)
    (stopped ("adding item to list " ++ list.text))
  publish .listUpdated list
  pure item

def deleteItem (list : ListId) (item : ItemId) (user : UserId) : Operation Unit := do
  let _ ← ownedList list user
  if ← Attempt.store (.deleteItem list item) (stopped ("deleting item " ++ item.text)) then
    publish .listUpdated list
  else throw (.notFound ("item " ++ item.text ++ " in list " ++ list.text))

/-- Looks for two lists at the same time. The first fault ends the search, also while the other
answer is still awaited; both answers are needed to go on. -/
def findBoth (first second : ListId) (user : UserId) (fault : StorageFault → RequestFault) :
    Operation (Option ItemList × Option ItemList) :=
  let findFirst : Call := .store (.findList first user)
  let findSecond : Call := .store (.findList second user)
  .call findFirst
    (fun
      | .error problem => .done (.error (fault problem))
      | .ok foundFirst =>
        .call findSecond
          (fun
            | .error problem => .done (.error (fault problem))
            | .ok foundSecond => .done (.ok (foundFirst, foundSecond)))
          .stalled)
    (.call findSecond
      (fun
        | .error problem => .done (.error (fault problem))
        | .ok _ => .stalled)
      .stalled)

/-- Puts an item back where it was after a move has failed. The sender of the request learns of
the failed move only, so what becomes of this is told to the operators. -/
def putBack (item : Item) : Job Unit := do
  match ← Job.ask (.store (.putItem item)) with
  | .ok () => Job.tell (.moveRolledBack item.id item.list)
  | .error fault => Job.tell (.rollbackFailed item.id item.list fault)

/-- Moves an item to the end of another list of the user: it is taken out of the one list and
then stored in the other, and put back if it cannot be stored there. -/
def moveItem (origin : ListId) (item : ItemId) (destination : ListId) (user : UserId) :
    Operation Item := do
  if origin = destination then
    throw (.badRequest ("item " ++ item.text ++ " is already in list " ++ origin.text))
  let (foundOrigin, foundDestination) ← findBoth origin destination user
    (stopped ("loading lists " ++ origin.text ++ " and " ++ destination.text))
  let some target := foundDestination
    | throw (.badRequest ("destination list " ++ destination.text ++ " does not exist"))
  let some source := foundOrigin
    | throw (.badRequest ("origin list " ++ origin.text ++ " does not exist"))
  let missing : RequestFault :=
    .badRequest ("item " ++ item.text ++ " does not exist in list " ++ origin.text)
  let some stored := source.item? item | throw missing
  let moved := { stored with list := destination, position := target.nextPosition }
  let removed ← Attempt.store (.deleteItem origin item)
    (stopped ("removing item " ++ item.text ++ " from list " ++ origin.text))
  if !removed then throw missing
  match ← Job.ask (.store (.putItem moved)) with
  | .ok () =>
    publish .listUpdated origin
    publish .listUpdated destination
    pure moved
  | .error fault =>
    putBack stored
    throw (stopped ("storing item " ++ item.text ++ " in list " ++ destination.text) fault)

/-- Asks for every search document to be rebuilt. The answer is the number of subscribers that
the request reached. -/
def requestReindex : Job Nat :=
  Job.publish .indexAllListsRequested .empty

end Operation

end ListKeeper
