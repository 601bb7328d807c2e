import ListKeeper.Http.MediaType
import ListKeeper.Http.Message
import ListKeeper.Json.Record
import ListKeeper.Text.Percent

namespace ListKeeper.Http

/-- The caller of a request. -/
def Request.caller (request : Request) : Except Response UserId :=
  (identify (request.header? callerHeader)).mapError Response.ofFault

inductive SegmentFault where
  | notText (name : String)
  | notNumber (value : String)
  /-- The value stands at `index` among several numbers. -/
  | notNumberAt (index : Nat) (value : String)
  deriving DecidableEq

def SegmentFault.message : SegmentFault → String
  | .notText name => "Invalid UTF-8 in `" ++ name ++ "`"
  | .notNumber value => "Cannot parse `" ++ value ++ "` to a `i32`"
  | .notNumberAt index value =>
    "Cannot parse value at index " ++ Decimal.ofNat index ++ " with value `" ++ value ++
      "` to a `i32`"

def SegmentFault.response (fault : SegmentFault) : Response :=
  .plain 400 ("Invalid URL: " ++ fault.message)

/-- The text of a segment, which is percent-encoded. -/
def segmentText (name segment : String) : Except SegmentFault String :=
  match Text.percentDecode? segment with
  | some text => .ok text
  | none => .error (.notText name)

/-- The number of a text. -/
def segmentNumber (fault : String → SegmentFault) (text : String) : Except SegmentFault Int32 :=
  match Decimal.int32? text.toList with
  | some number => .ok number
  | none => .error (fault text)

/-- The list that the only segment of its kind names. -/
def listSegment (list : String) : Except SegmentFault ListId := do
  let listText ← segmentText "list_id" list
  return ⟨← segmentNumber .notNumber listText⟩

/-- The list and the item that two segments name. Both are decoded before either is read. -/
def itemSegments (list item : String) : Except SegmentFault (ListId × ItemId) := do
  let listText ← segmentText "list_id" list
  let itemText ← segmentText "item_id" item
  let list ← segmentNumber (.notNumberAt 0) listText
  let item ← segmentNumber (.notNumberAt 1) itemText
  return (⟨list⟩, ⟨item⟩)

inductive ContentFault where
  | notJson
  | tooLarge
  | malformed
  | unfit
  deriving DecidableEq

def ContentFault.response : ContentFault → Response
  | .notJson => .plain 415 "Expected request with `Content-Type: application/json`"
  | .tooLarge => .plain 413 "Failed to buffer the request body"
  | .malformed => .plain 400 "Failed to parse the request body as JSON"
  | .unfit => .plain 422 "Failed to deserialize the JSON body into the target type"

/-- Text that ends too early is as malformed as any. -/
def ContentFault.ofRead : ReadFault → ContentFault
  | .malformed => .malformed
  | .cutShort => .malformed
  | .unfit => .unfit

/-- The largest content that is taken, in bytes. -/
def contentLimit : Nat := 2097152

def Request.hasJson (request : Request) : Bool :=
  match (request.header? "content-type").bind HeaderValue.text? with
  | some text => MediaType.isJson text
  | none => false

def Request.content {ρ α : Type} (request : Request) (shape : Json.Shape ρ α) :
    Except ContentFault α :=
  if !request.hasJson then .error .notJson
  else if contentLimit < request.body.bytes.length then .error .tooLarge
  else (Json.readBytes (Json.wantedRecord shape) request.body.bytes).mapError .ofRead

end ListKeeper.Http
