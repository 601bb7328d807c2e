import ListKeeper.Document
import ListKeeper.Fault
import ListKeeper.Program
import ListKeeper.Text.Blank
import ListKeeper.Text.Quoted

namespace ListKeeper

namespace RemoteIndex

/-- How the search service is reached. The timeout is in seconds. -/
structure Settings where
  application : String
  key : String
  index : String
  /-- The address of the service, if it is not the usual one. -/
  baseUrl : Option String
  timeout : Nat
  deriving DecidableEq

structure Request where
  method : String
  url : String
  application : String
  key : String
  body : Option Json

structure Response where
  status : Nat
  body : String
  deriving DecidableEq

/-- The one call on the network: an exchange of a request for a response, which can fail. -/
inductive NetworkCall where
  | exchange (request : Request)

abbrev network : Interface :=
  ⟨NetworkCall, fun _ => Except String Response⟩

end RemoteIndex

/-- A remote index: its address and what the service knows the program by. -/
structure RemoteIndex where
  url : String
  application : String
  key : String
  deriving DecidableEq

namespace RemoteIndex

/-- A text without the slashes at its end. -/
def withoutSlashes (text : String) : String :=
  String.ofList (text.toList.reverse.dropWhile (· == '/')).reverse

/-- The remote index of some settings, which must name an application and an index. -/
def connect (settings : Settings) : Except SearchFault RemoteIndex :=
  if Text.isBlankText settings.application then
    .error (.misconfigured "application id is empty")
  else if Text.isBlankText settings.index then .error (.misconfigured "index name is empty")
  else
    let base :=
      settings.baseUrl.getD ("https://" ++ settings.application ++ ".algolia.net")
    .ok ⟨withoutSlashes base ++ "/1/indexes/" ++ settings.index, settings.application,
      settings.key⟩

def diagnosticText (remote : RemoteIndex) : String :=
  "index_url: " ++ Text.quoted remote.url ++ ", app_id: " ++ Text.quoted remote.application ++
    ", api_key: " ++ Text.quoted remote.key

abbrev Work := ExceptT SearchFault (Program network)

def exchange (remote : RemoteIndex) (method url : String) (body : Option Json) : Work Response :=
  let request : Request := ⟨method, url, remote.application, remote.key, body⟩
  ExceptT.mk (.call (.exchange request)
    (fun answer => .done (answer.mapError SearchFault.transport)) .stalled)

def Response.isSuccess (response : Response) : Bool :=
  200 ≤ response.status && response.status < 300

def Response.rejection (response : Response) : SearchFault :=
  .rejected response.status response.body

/-- The request that stores documents, each in place of the one that has its key. -/
def batchBody (documents : List Document) : Json :=
  .object [("requests", .array (documents.map fun document =>
    .object [("action", .text "updateObject"), ("body", document.toJson)]))]

/-- Stores documents. Nothing is sent when there are none. -/
def saveDocuments (remote : RemoteIndex) (documents : List Document) : Work Unit := do
  if documents.isEmpty then return
  let response ← remote.exchange "POST" (remote.url ++ "/batch") (some (batchBody documents))
  if !response.isSuccess then throw response.rejection

/-- Removes a document, which may be absent already. -/
def deleteDocument (remote : RemoteIndex) (objectId : String) : Work Unit := do
  let response ← remote.exchange "DELETE" (remote.url ++ "/" ++ objectId) none
  if response.status ≠ 404 ∧ !response.isSuccess then throw response.rejection

end RemoteIndex

end ListKeeper
