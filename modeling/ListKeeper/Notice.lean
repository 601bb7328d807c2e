import ListKeeper.Fault

namespace ListKeeper

inductive DropReason where
  | backlogFull
  | nobodyToDrain
  deriving DecidableEq

def DropReason.text : DropReason → String
  | .backlogFull => "backlog limit reached"
  | .nobodyToDrain => "no async runtime available to drain backlog"

/-- What the program tells its operators. -/
inductive Notice where
  /-- An event was dropped for one subscriber, the `total`th in all. -/
  | deliveryDropped (topic : Topic) (reason : DropReason) (total : UInt64)
  | eventFailed (handler : String) (envelope : Envelope) (fault : ProjectionFault)
  | callbackPanicked (handler : String)
  | failureReported (context : String) (fault : ProjectionFault)
  | moveRolledBack (item : ItemId) (list : ListId)
  | rollbackFailed (item : ItemId) (list : ListId) (fault : StorageFault)
  | requestFailed (activity : String) (cause : Cause)
  deriving DecidableEq

inductive Notice.Level where
  | warn
  | error
  deriving DecidableEq

def Notice.Level.name : Notice.Level → String
  | .warn => "warn"
  | .error => "error"

def Notice.level : Notice → Notice.Level
  | .deliveryDropped .. => .warn
  | .eventFailed .. => .error
  | .callbackPanicked _ => .warn
  | .failureReported .. => .error
  | .moveRolledBack .. => .warn
  | .rollbackFailed .. => .error
  | .requestFailed .. => .error

def Notice.message : Notice → String
  | .deliveryDropped .. => "event delivery dropped"
  | .eventFailed .. => "event processing failed"
  | .callbackPanicked _ => "completion callback panicked"
  | .failureReported .. => "pipeline failure reported"
  | .moveRolledBack .. => "move rolled back"
  | .rollbackFailed .. => "rollback of moved item failed; item is missing from both lists"
  | .requestFailed .. => "request failed"

inductive Notice.Detail where
  | text (value : String)
  | count (value : Nat)

def Notice.details : Notice → List (String × Notice.Detail)
  | .deliveryDropped topic reason total =>
    [("topic", .text topic.name), ("reason", .text reason.text), ("dropped", .count total.toNat)]
  | .eventFailed handler envelope fault =>
    [("processor", .text handler), ("topic", .text envelope.topic.name),
      ("payload", .text envelope.payload.text), ("error", .text fault.message)]
  | .callbackPanicked handler => [("processor", .text handler)]
  | .failureReported context fault =>
    [("context", .text context), ("error", .text fault.message), ("chain", .text fault.chain)]
  | .moveRolledBack item list => [("item_id", .text item.text), ("list_id", .text list.text)]
  | .rollbackFailed item list fault =>
    [("item_id", .text item.text), ("list_id", .text list.text), ("error", .text fault.message)]
  | .requestFailed activity cause =>
    [("context", .text activity), ("error", .text cause.message)]

end ListKeeper
