import ListKeeper.Event

namespace ListKeeper

inductive DatabaseFault where
  | rowNotFound
  | poolClosed
  | protocol (detail : String)
  deriving DecidableEq

def DatabaseFault.message : DatabaseFault → String
  | .rowNotFound => "no rows returned by a query that expected to return at least one row"
  | .poolClosed => "attempted to acquire a connection on a closed pool"
  | .protocol detail => "encountered unexpected or invalid data: " ++ detail

inductive StorageFault where
  | database (cause : DatabaseFault)
  | listNotFound (list : ListId)
  | unavailable (detail : String)
  deriving DecidableEq

def StorageFault.message : StorageFault → String
  | .database cause => "database error: " ++ cause.message
  | .listNotFound list => "list " ++ list.text ++ " not found"
  | .unavailable detail => "storage unavailable: " ++ detail

def StorageFault.chain (fault : StorageFault) : String :=
  match fault with
  | .database cause => fault.message ++ ": " ++ cause.message
  | _ => fault.message

/-- The failure of a schema migration over a pool that is closed. -/
def StorageFault.migrationOnClosedPool : StorageFault :=
  .unavailable
    ("migration failed: while executing migrations: " ++ DatabaseFault.poolClosed.message)

inductive SearchFault where
  | transport (detail : String)
  | rejected (status : Nat) (body : String)
  | misconfigured (detail : String)
  deriving DecidableEq

def SearchFault.message : SearchFault → String
  | .transport detail => "search request failed: " ++ detail
  | .rejected status body =>
    "search service rejected request (" ++ Decimal.ofNat status ++ "): " ++ body
  | .misconfigured detail => "search client misconfigured: " ++ detail

def SearchFault.chain (fault : SearchFault) : String :=
  match fault with
  | .transport detail => fault.message ++ ": " ++ detail
  | _ => fault.message

inductive ProjectionFault where
  | storage (cause : StorageFault)
  | search (cause : SearchFault)
  | listGone (list : ListId)
  | unexpectedPayload (envelope : Envelope)
  | panicked (reason : String)
  deriving DecidableEq

def ProjectionFault.message : ProjectionFault → String
  | .storage cause => "repository error: " ++ cause.message
  | .search cause => "search error: " ++ cause.message
  | .listGone list => "list " ++ list.text ++ " no longer exists"
  | .unexpectedPayload envelope =>
    "unexpected payload " ++ envelope.payload.text ++ " on topic " ++ envelope.topic.name
  | .panicked reason => "handler panicked: " ++ reason

def ProjectionFault.chain (fault : ProjectionFault) : String :=
  match fault with
  | .storage cause => fault.message ++ ": " ++ cause.chain
  | .search cause => fault.message ++ ": " ++ cause.chain
  | _ => fault.message

inductive Cause where
  | storage (fault : StorageFault)
  | projection (fault : ProjectionFault)
  deriving DecidableEq

def Cause.message : Cause → String
  | .storage fault => fault.message
  | .projection fault => fault.message

def Cause.chain : Cause → String
  | .storage fault => fault.chain
  | .projection fault => fault.chain

/-- Failures of a request, as its sender sees them. -/
inductive RequestFault where
  /-- The sender can correct the request. -/
  | badRequest (problem : String)
  /-- What the request addresses does not exist for its sender. -/
  | notFound (subject : String)
  | unauthorized (problem : String)
  /-- A lower layer failed during the named activity. -/
  | unexpected (activity : String) (cause : Cause)
  deriving DecidableEq

/-- The cause of an unexpected fault is kept out of the text that the sender gets. -/
def RequestFault.message : RequestFault → String
  | .badRequest problem => "bad request: " ++ problem
  | .notFound subject => "not found: " ++ subject
  | .unauthorized problem => "unauthorized: " ++ problem
  | .unexpected activity _ => "unexpected error while " ++ activity

def RequestFault.chain (fault : RequestFault) : String :=
  match fault with
  | .unexpected _ cause => fault.message ++ ": " ++ cause.chain
  | _ => fault.message

/-- The number that responses give for a kind of fault. -/
def RequestFault.code : RequestFault → Nat
  | .badRequest _ => 1001
  | .notFound _ => 2001
  | .unexpected _ _ => 3000
  | .unauthorized _ => 4001

def RequestFault.status : RequestFault → Nat
  | .badRequest _ => 400
  | .notFound _ => 404
  | .unauthorized _ => 401
  | .unexpected _ _ => 500

end ListKeeper
