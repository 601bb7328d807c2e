import ListKeeper.Http.Message

namespace ListKeeper.Http

/-- A resource. Lists and items are named by segments of the path, which are kept as written. -/
inductive Resource where
  | health
  | lists
  | list (listName : String)
  | items (listName : String)
  | item (listName itemName : String)
  | itemMove (listName itemName : String)
  | reindex
  deriving DecidableEq

/-- The parts of a path between its slashes. -/
def segments : List Char → List (List Char)
  | [] => [[]]
  | c :: rest =>
    match segments rest with
    | [] => [[c]]
    | first :: later => if c = '/' then [] :: first :: later else (c :: first) :: later

/-- A segment at the end of a path, where an empty one names nothing. -/
def lastSegment? (segment : String) : Option String :=
  if segment.isEmpty then none else some segment

/-- The resource of a path. Paths are case-sensitive. A slash at the end makes another path, but
between slashes there may be nothing: the resource exists, and only its name cannot be read. -/
def Resource.ofPath? (path : String) : Option Resource :=
  match (segments path.toList).map String.ofList with
  | ["", "health"] => some .health
  | ["", "api", "v1", "lists"] => some .lists
  | ["", "api", "v1", "search", "reindex"] => some .reindex
  | ["", "api", "v1", "lists", listName] => (lastSegment? listName).map .list
  | ["", "api", "v1", "lists", listName, "items"] => some (.items listName)
  | ["", "api", "v1", "lists", listName, "items", itemName] =>
    (lastSegment? itemName).map (.item listName)
  | ["", "api", "v1", "lists", listName, "items", itemName, "move"] =>
    some (.itemMove listName itemName)
  | _ => none

example : Resource.ofPath? "/api/v1/lists//items" = some (.items "") := by
  decide +kernel

example : Resource.ofPath? "/api/v1/lists/" = none := by
  decide +kernel

inductive Method where
  | get
  | post
  | patch
  | delete
  deriving DecidableEq

/-- The names under which a method is asked for. What can be got can also be asked for without
its content. -/
def Method.names : Method → List String
  | .get => ["GET", "HEAD"]
  | .post => ["POST"]
  | .patch => ["PATCH"]
  | .delete => ["DELETE"]

/-- The methods of a resource, in the order in which a refusal lists them. -/
def Resource.methods : Resource → List Method
  | .health => [.get]
  | .lists => [.post]
  | .list _ => [.get, .patch, .delete]
  | .items _ => [.post]
  | .item .. => [.delete]
  | .itemMove .. => [.post]
  | .reindex => [.post]

def Resource.method? (resource : Resource) (name : String) : Option Method :=
  resource.methods.find? fun method => method.names.contains name

/-- The header that lists the methods of a resource. -/
def Resource.allow (resource : Resource) : String × String :=
  ("allow", ",".intercalate (resource.methods.flatMap Method.names))

end ListKeeper.Http
