import ListKeeper.Http.Extract
import ListKeeper.Http.Form
import ListKeeper.Http.Resource
import ListKeeper.ListView
import ListKeeper.Operation

/-!
Endpoints: what a method does on a resource.

An endpoint first takes what it needs out of the request: the caller, then the numbers in the
path, then the content. The first part that is wrong is answered at once, so that nothing has been
done when a request is refused for its form. Then the endpoint works, and what comes of the work
becomes the response.
-/
namespace ListKeeper.Http

/-- The response to a fault of the work. Operators are told of an unexpected one. -/
def failed (fault : RequestFault) : Job Response := do
  if let .unexpected activity cause := fault then
    Job.tell (.requestFailed activity cause)
  pure (.ofFault fault)

/-- The response to what comes of an operation. -/
def respond {α : Type} (operation : Operation α) (success : α → Response) : Job Response := do
  match ← operation.run with
  | .ok value => pure (success value)
  | .error fault => failed fault

def version : String := "0.1.0"

def busReport (status : BusStatus) : Json :=
  .object [
    ("subscribers", .array ((Topic.all.zip status.subscribers).map fun (topic, count) =>
      .object [("topic", .text topic.name), ("subscribers", .ofNat count)])),
    ("dropped_deliveries", .ofNat status.dropped.toNat)]

def healthReport (now : Timestamp) (status : BusStatus) : Json :=
  .object [("status", .text "healthy"), ("timestamp", .text now.offsetText),
    ("version", .text version), ("event_bus", busReport status)]

def reindexReport (subscribers : Nat) : Json :=
  .object [("status", .text "accepted"), ("subscribers", .ofNat subscribers)]

namespace Endpoint

def showHealth : Job Response := do
  let status ← Job.ask .busStatus
  let now ← Job.ask .clock
  pure (.ofJson 200 (healthReport now status))

def createList (request : Request) : Except Response (Job Response) := do
  let user ← request.caller
  let form ← (request.content NewList.shape).mapError ContentFault.response
  return respond (Operation.createList user form.name) fun list =>
    .ofJson 201 (ListView.ofList list).toJson

def showList (request : Request) (list : String) : Except Response (Job Response) := do
  let user ← request.caller
  let list ← (listSegment list).mapError SegmentFault.response
  return respond (Operation.getList list user) fun list =>
    .ofJson 200 (ListView.ofList list).toJson

def renameList (request : Request) (list : String) : Except Response (Job Response) := do
  let user ← request.caller
  let list ← (listSegment list).mapError SegmentFault.response
  let form ← (request.content NewName.shape).mapError ContentFault.response
  return respond (Operation.renameList list user form.name) fun list =>
    .ofJson 200 (ListView.ofList list).toJson

def deleteList (request : Request) (list : String) : Except Response (Job Response) := do
  let user ← request.caller
  let list ← (listSegment list).mapError SegmentFault.response
  return respond (Operation.deleteList list user) fun _ => .bare 204

def addItem (request : Request) (list : String) : Except Response (Job Response) := do
  let user ← request.caller
  let list ← (listSegment list).mapError SegmentFault.response
  let form ← (request.content NewItem.shape).mapError ContentFault.response
  return respond (Operation.addItem list user form.title form.description) fun item =>
    .ofJson 201 item.toJson

def deleteItem (request : Request) (list item : String) : Except Response (Job Response) := do
  let user ← request.caller
  let (list, item) ← (itemSegments list item).mapError SegmentFault.response
  return respond (Operation.deleteItem list item user) fun _ => .bare 204

def moveItem (request : Request) (list item : String) : Except Response (Job Response) := do
  let user ← request.caller
  let (list, item) ← (itemSegments list item).mapError SegmentFault.response
  let form ← (request.content Destination.shape).mapError ContentFault.response
  return respond (Operation.moveItem list item ⟨form.list⟩ user) fun item =>
    .ofJson 200 item.toJson

def requestReindex (request : Request) : Except Response (Job Response) := do
  let _ ← request.caller
  return do
    let subscribers ← Operation.requestReindex
    pure (.ofJson 202 (reindexReport subscribers))

end Endpoint

/-- What a request asks of a resource by one of its methods, or the response that refuses it. -/
def Resource.work (resource : Resource) (method : Method) (request : Request) :
    Except Response (Job Response) :=
  match resource, method with
  | .health, _ => .ok Endpoint.showHealth
  | .lists, _ => Endpoint.createList request
  | .list listName, .patch => Endpoint.renameList request listName
  | .list listName, .delete => Endpoint.deleteList request listName
  | .list listName, _ => Endpoint.showList request listName
  | .items listName, _ => Endpoint.addItem request listName
  | .item listName itemName, _ => Endpoint.deleteItem request listName itemName
  | .itemMove listName itemName, _ => Endpoint.moveItem request listName itemName
  | .reindex, _ => Endpoint.requestReindex request

end ListKeeper.Http
