import ListKeeper.Projection

namespace ListKeeper

/-- What is done about an event, with calls of `I`. -/
structure Handler (I : Interface) where
  name : String
  /-- Whether operators get a report of each failure. -/
  forwards : Bool
  handle : Envelope → Program I (Except ProjectionFault Unit)

namespace Handler

/-- The list that an event about one list must name. -/
def listOf (envelope : Envelope) : Projection ListId :=
  match envelope.payload.list? with
  | some list => pure list
  | none => throw (.unexpectedPayload envelope)

def itemCount : Handler Call.interface where
  name := "item_count"
  forwards := false
  handle envelope := (do
    let _ ← Projection.recount (← listOf envelope) : Projection Unit)

/-- Stores the document of the list that the event names. -/
def searchIndex : Handler Call.interface where
  name := "search_index"
  forwards := true
  handle envelope := (do
    Projection.indexList (← listOf envelope) : Projection Unit)

def searchDeindex : Handler Call.interface where
  name := "search_deindex"
  forwards := true
  handle envelope := (do
    Projection.removeList (← listOf envelope) : Projection Unit)

/-- Rebuilds every document, on an event that names no list. -/
def searchReindex (batch : Nat) : Handler Call.interface where
  name := "search_reindex"
  forwards := true
  handle envelope := (do
    if envelope.payload ≠ .empty then throw (.unexpectedPayload envelope)
    let _ ← Projection.indexAll batch : Projection Unit)

end Handler

end ListKeeper
