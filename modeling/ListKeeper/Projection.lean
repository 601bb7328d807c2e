import ListKeeper.Backend

namespace ListKeeper

/-- What brings item counts and documents up to date with the store. -/
abbrev Projection (α : Type) := Attempt ProjectionFault α

namespace Projection

def store (call : StoreCall) : Projection call.Result :=
  Attempt.store call .storage

def recount (list : ListId) : Projection Int32 := do
  let count ← store (.countItems list)
  store (.setItemCount list count)
  pure count

/-- Reads a list again and stores its document. -/
def indexList (list : ListId) : Projection Unit := do
  match ← store (.loadList list) with
  | some found => Attempt.saveDocuments [Document.ofList found] .search
  | none => throw (.listGone list)

def removeList (list : ListId) : Projection Unit :=
  Attempt.deleteDocument (Document.keyOf list) .search

/-- The documents of the given lists, without those that are gone. -/
def loadDocuments : List ListId → Projection (List Document)
  | [] => pure []
  | list :: rest => do
    let found ← store (.loadList list)
    let later ← loadDocuments rest
    pure ((found.map Document.ofList).toList ++ later)

/-- How many list numbers there are above a cursor. -/
def room : Option ListId → Nat
  | none => 4294967297
  | some list => (2147483648 - list.number.toInt).toNat

/-- A number that a page may end with: one above the cursor. -/
def isBeyond (after : Option ListId) (last : ListId) : Bool :=
  match after with
  | none => true
  | some bound => bound.number < last.number

theorem room_lt_of_isBeyond {after : Option ListId} {last : ListId}
    (beyond : isBeyond after last) : room (some last) < room after := by
  have low := Int32.le_toInt last.number
  have high := Int32.toInt_lt last.number
  cases after with
  | none =>
    simp only [room]
    omega
  | some bound =>
    have above : bound.number.toInt < last.number.toInt := by
      simpa [isBeyond, Int32.lt_iff_toInt_lt] using beyond
    simp only [room]
    omega

/-- Stores the documents of the lists above a cursor, page by page. A page that is not full is
the last one; after a full one the next starts behind its last number. A store whose page ends
at or before the cursor would be asked for that page for ever. -/
def indexPages (pageSize : Nat) (after : Option ListId) (indexed : Nat) : Projection Nat := do
  let ids ← store (.listIds after pageSize)
  match ids.getLast? with
  | none => pure indexed
  | some last =>
    let documents ← loadDocuments ids
    Attempt.saveDocuments documents .search
    let total := indexed + documents.length
    if ids.length < pageSize then pure total
    else if _beyond : isBeyond after last then indexPages pageSize (some last) total
    else (Program.stalled : Job (Except ProjectionFault Nat))
termination_by room after
decreasing_by exact room_lt_of_isBeyond _beyond

/-- Rebuilds the document of every list and returns how many documents were stored. A page holds
`batch` lists, and at least one. -/
def indexAll (batch : Nat) : Projection Nat :=
  indexPages (max batch 1) none 0

end Projection

end ListKeeper
