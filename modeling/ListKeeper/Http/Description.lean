import ListKeeper.Http.Endpoint

namespace ListKeeper.Http.Description

/-- The description of the service for its users, in the OpenAPI format, is made of notes: of each
field, record, parameter and endpoint. -/
inductive FieldType where
  | text
  | optionalText
  | instant
  | int32
  /-- A number without a sign, in 32 or 64 bits if that matters. -/
  | count (format : Option String)
  | record (name : String)
  | records (name : String)

structure FieldNote where
  name : String
  type : FieldType
  description : String
  required : Bool := true

structure RecordNote where
  name : String
  description : String
  fields : List FieldNote

def reference (name : String) : String × Json :=
  ("$ref", .text ("#/components/schemas/" ++ name))

def FieldType.schema : FieldType → List (String × Json)
  | .text => [("type", .text "string")]
  | .optionalText => [("type", .array [.text "string", .text "null"])]
  | .instant => [("type", .text "string"), ("format", .text "date-time")]
  | .int32 => [("type", .text "integer"), ("format", .text "int32")]
  | .count format =>
    [("type", .text "integer")] ++ (format.map fun name => ("format", Json.text name)).toList ++
      [("minimum", .number 0)]
  | .record name => [reference name]
  | .records name => [("type", .text "array"), ("items", .object [reference name])]

def FieldNote.schema (field : FieldNote) : Json :=
  .object (field.type.schema ++ [("description", .text field.description)])

def RecordNote.schema (record : RecordNote) : Json :=
  .object [("type", .text "object"), ("description", .text record.description),
    ("required", .array ((record.fields.filter FieldNote.required).map fun field =>
      .text field.name)),
    ("properties", .object (record.fields.map fun field => (field.name, field.schema)))]

def itemRecord : RecordNote where
  name := "ItemDto"
  description := "One item as returned by the API."
  fields := [
    ⟨"id", .int32, "Item ID.", true⟩,
    ⟨"list_id", .int32, "List the item belongs to.", true⟩,
    ⟨"title", .text, "Short title.", true⟩,
    ⟨"description", .text, "Free-form description.", true⟩,
    ⟨"position", .int32, "Ordering key within the list.", true⟩,
    ⟨"created_at", .instant, "Creation timestamp.", true⟩,
    ⟨"updated_at", .instant, "Last change timestamp.", true⟩]

def listRecord : RecordNote where
  name := "ListDto"
  description := "A list with its items, ordered by position."
  fields := [
    ⟨"id", .int32, "List ID.", true⟩,
    ⟨"user_id", .int32, "Owner.", true⟩,
    ⟨"name", .text, "Display name.", true⟩,
    ⟨"item_count", .int32,
      "Projected item count. Updated asynchronously, so it may lag\nbehind `items`.", true⟩,
    ⟨"items", .records "ItemDto", "Items ordered by position.", true⟩,
    ⟨"created_at", .instant, "Creation timestamp.", true⟩,
    ⟨"updated_at", .instant, "Last change timestamp.", true⟩]

def requestRecords : List RecordNote := [
  { name := "CreateListRequest"
    description := "Body of `POST /lists`."
    fields := [⟨"name", .text, "Display name; must not be blank.", true⟩] },
  { name := "RenameListRequest"
    description := "Body of `PATCH /lists/\x7blist_id\x7d`."
    fields := [⟨"name", .text, "New display name; must not be blank.", true⟩] },
  { name := "AddItemRequest"
    description := "Body of `POST /lists/\x7blist_id\x7d/items`."
    fields := [
      ⟨"title", .text, "Short title; must not be blank.", true⟩,
      ⟨"description", .text, "Free-form description.", false⟩] },
  { name := "MoveItemRequest"
    description := "Body of `POST /lists/\x7blist_id\x7d/items/\x7bitem_id\x7d/move`."
    fields := [
      ⟨"destination_list_id", .int32, "List the item should be appended to.", true⟩] }]

def systemRecords : List RecordNote := [
  { name := "HealthResponse"
    description := "`GET /health` response."
    fields := [
      ⟨"status", .text, "Always `\"healthy\"` when the process answers.", true⟩,
      ⟨"timestamp", .text, "RFC 3339 server time.", true⟩,
      ⟨"version", .text, "Crate version.", true⟩,
      ⟨"event_bus", .record "EventBusStats", "Event bus statistics.", true⟩] },
  { name := "EventBusStats"
    description := "Snapshot of the event bus registry and overflow counter."
    fields := [
      ⟨"subscribers", .records "TopicSubscribers", "Registered channels per topic.", true⟩,
      ⟨"dropped_deliveries", .count (some "int64"), "Deliveries abandoned since startup.",
        true⟩] },
  { name := "TopicSubscribers"
    description := "Subscriber count of one topic."
    fields := [
      ⟨"topic", .text, "Topic name, e.g. `listUpdated`.", true⟩,
      ⟨"subscribers", .count none, "Registered channels, duplicates included.", true⟩] },
  { name := "ReindexResponse"
    description := "`POST /search/reindex` response."
    fields := [
      ⟨"status", .text, "Always `\"accepted\"`.", true⟩,
      ⟨"subscribers", .count none,
        "Processors the request reached. `0` means nothing will run.", true⟩] }]

def faultRecords : List RecordNote := [
  { name := "ErrorResponse"
    description := "Structured JSON error response body.\n\n" ++
      "All error responses follow this shape:\n```json\n\x7b\n  \"error\": \x7b\n    \"code\": 1001,\n" ++
      "    \"message\": \"bad request: destination list 12 does not exist\"\n  \x7d\n\x7d\n```"
    fields := [⟨"error", .record "ErrorBody", "Structured error payload.", true⟩] },
  { name := "ErrorBody"
    description := "Inner error body with numeric code and human-readable message."
    fields := [
      ⟨"code", .count (some "int32"), "Numeric error code.", true⟩,
      ⟨"message", .text, "Human-readable error message.", true⟩,
      ⟨"details", .optionalText, "Optional additional details.", false⟩] }]

def records : List RecordNote :=
  requestRecords ++ [itemRecord, listRecord] ++ systemRecords ++ faultRecords

/-- A parameter, which is a 32-bit number and must be given. -/
structure ParameterNote where
  name : String
  place : String
  description : String

/-- A response with the record that it brings, if it brings one. -/
structure ResponseNote where
  status : String
  description : String
  record : Option String

structure EndpointNote where
  path : String
  method : String
  name : String
  tag : String
  summary : String
  description : Option String
  parameters : List ParameterNote
  content : Option String
  responses : List ResponseNote

def ParameterNote.toJson (parameter : ParameterNote) : Json :=
  .object [("name", .text parameter.name), ("in", .text parameter.place),
    ("description", .text parameter.description), ("required", .bool true),
    ("schema", .object FieldType.int32.schema)]

def contentOf (record : String) : String × Json :=
  ("content", .object [("application/json", .object [("schema", .object [reference record])])])

def ResponseNote.toJson (response : ResponseNote) : Json :=
  .object (("description", .text response.description) :: (response.record.map contentOf).toList)

def EndpointNote.toJson (endpoint : EndpointNote) : Json :=
  .object ([("tags", .array [.text endpoint.tag]), ("summary", .text endpoint.summary)] ++
    (endpoint.description.map fun text => ("description", Json.text text)).toList ++
    [("operationId", .text endpoint.name)] ++
    (if endpoint.parameters.isEmpty then []
      else [("parameters", .array (endpoint.parameters.map ParameterNote.toJson))]) ++
    (endpoint.content.map fun record =>
      ("requestBody", Json.object [contentOf record, ("required", .bool true)])).toList ++
    [("responses", .object (endpoint.responses.map fun response =>
      (response.status, response.toJson)))])

def caller : ParameterNote :=
  ⟨"X-User-Id", "header", "Caller user ID"⟩

def listParameter (description : String) : ParameterNote :=
  ⟨"list_id", "path", description⟩

def itemParameter : ParameterNote :=
  ⟨"item_id", "path", "Item ID"⟩

def refusal (status description : String) : ResponseNote :=
  ⟨status, description, some "ErrorResponse"⟩

def listPath : String := "/api/v1/lists/\x7blist_id\x7d"

def itemPath : String := listPath ++ "/items/\x7bitem_id\x7d"

def listEndpoints : List EndpointNote := [
  { path := "/api/v1/lists"
    method := "post"
    name := "create_list"
    tag := "Lists"
    summary := "Create a list"
    description := "Creates an empty list owned by the caller and publishes `listCreated`."
    parameters := [caller]
    content := some "CreateListRequest"
    responses := [⟨"201", "List created", some "ListDto"⟩, refusal "400" "Blank name",
      refusal "401" "Missing caller identity"] },
  { path := listPath
    method := "get"
    name := "get_list"
    tag := "Lists"
    summary := "Get a list"
    description :=
      "# Errors\n\nReturns [`AppError::NotFound`] if the caller owns no such list."
    parameters := [listParameter "List ID", caller]
    content := none
    responses := [⟨"200", "List with items", some "ListDto"⟩, refusal "404" "List not found"] },
  { path := listPath
    method := "patch"
    name := "rename_list"
    tag := "Lists"
    summary := "Rename a list"
    description := "# Errors\n\nReturns [`AppError::BadRequest`] for a blank name and\n" ++
      "[`AppError::NotFound`] if the caller owns no such list."
    parameters := [listParameter "List ID", caller]
    content := some "RenameListRequest"
    responses := [⟨"200", "Renamed list", some "ListDto"⟩, refusal "400" "Blank name",
      refusal "404" "List not found"] },
  { path := listPath
    method := "delete"
    name := "delete_list"
    tag := "Lists"
    summary := "Delete a list"
    description :=
      "# Errors\n\nReturns [`AppError::NotFound`] if the caller owns no such list."
    parameters := [listParameter "List ID", caller]
    content := none
    responses := [⟨"204", "List deleted", none⟩, refusal "404" "List not found"] }]

def itemEndpoints : List EndpointNote := [
  { path := listPath ++ "/items"
    method := "post"
    name := "add_item"
    tag := "Items"
    summary := "Add an item"
    description := "# Errors\n\nReturns [`AppError::BadRequest`] for a blank title and\n" ++
      "[`AppError::NotFound`] if the caller owns no such list."
    parameters := [listParameter "List ID", caller]
    content := some "AddItemRequest"
    responses := [⟨"201", "Item added at the end of the list", some "ItemDto"⟩,
      refusal "400" "Blank title", refusal "404" "List not found"] },
  { path := itemPath
    method := "delete"
    name := "delete_item"
    tag := "Items"
    summary := "Delete an item"
    description :=
      "# Errors\n\nReturns [`AppError::NotFound`] if the list or the item does not exist."
    parameters := [listParameter "List ID", itemParameter, caller]
    content := none
    responses := [⟨"204", "Item deleted", none⟩, refusal "404" "List or item not found"] },
  { path := itemPath ++ "/move"
    method := "post"
    name := "move_item"
    tag := "Items"
    summary := "Move an item"
    description := "Moves the item to the end of the destination list. Both lists must belong " ++
      "to the caller. Publishes `listUpdated` for both lists."
    parameters := [listParameter "Origin list ID", itemParameter, caller]
    content := some "MoveItemRequest"
    responses := [⟨"200", "Item as stored in the destination", some "ItemDto"⟩,
      refusal "400" "Unknown list or item", refusal "500" "Storage failure"] }]

def systemEndpoints : List EndpointNote := [
  { path := "/health"
    method := "get"
    name := "health_handler"
    tag := "System"
    summary := "Health check"
    description := "Returns service health status, version, current timestamp, and event bus " ++
      "statistics."
    parameters := []
    content := none
    responses := [⟨"200", "Service is healthy", some "HealthResponse"⟩] },
  { path := "/api/v1/search/reindex"
    method := "post"
    name := "reindex"
    tag := "Search"
    summary := "Request a full reindex"
    description := "Returns as soon as the request is on the bus; the reindex runs in the\n" ++
      "background."
    parameters := [caller]
    content := none
    responses := [⟨"202", "Reindex requested", some "ReindexResponse"⟩] }]

def endpoints : List EndpointNote :=
  listEndpoints ++ itemEndpoints ++ systemEndpoints

def pathItem (path : String) : Json :=
  .object ((endpoints.filter fun endpoint => endpoint.path == path).map fun endpoint =>
    (endpoint.method, endpoint.toJson))

def tags : List (String × String) :=
  [("Lists", "List lifecycle"), ("Items", "Items within lists"),
    ("Search", "Search index maintenance"), ("System", "Operational endpoints")]

def info : Json :=
  .object [("title", .text "listhub"), ("description", .text "List management API"),
    ("contact", .object [("name", .text "Joaquin Bejar"), ("email", .text "jb@taunais.com")]),
    ("license", .object [("name", .text "MIT"), ("identifier", .text "MIT")]),
    ("version", .text version)]

def document : Json :=
  .object [("openapi", .text "3.1.0"), ("info", info),
    ("paths", .object ((endpoints.map EndpointNote.path).eraseDups.map fun path =>
      (path, pathItem path))),
    ("components", .object [("schemas", .object (records.map fun record =>
      (record.name, record.schema)))]),
    ("tags", .array (tags.map fun (name, description) =>
      .object [("name", .text name), ("description", .text description)]))]

end ListKeeper.Http.Description
