import ListKeeper.Json.Reader

namespace ListKeeper.Json

structure Field (ρ : Type) where
  name : String
  isSet : ρ → Bool
  /-- Reads the field's value and says how it changes the draft. -/
  read : Reader (ρ → ρ)

/-- A record of type `α`: its fields in order, the draft without fields, and how a draft in which
no more fields follow becomes a record. -/
structure Shape (ρ α : Type) where
  fields : List (Field ρ)
  blank : ρ
  finish : ρ → Option α

/-- The fields of an object and its end, `fuel` of them at most. -/
def objectFields {ρ : Type} (fields : List (Field ρ)) : (fuel : Nat) → Bool → ρ → Reader ρ
  | 0, _, _ => throw .cutShort
  | fuel + 1, first, draft => do
    if ← another '\x7d' first then
      let name ← fieldName
      match fields.find? fun field => field.name == name with
      | some field =>
        if field.isSet draft then throw .unfit
        colon
        let change ← field.read
        objectFields fields fuel false (change draft)
      | none =>
        colon
        skip
        objectFields fields fuel false draft
    else
      advance
      pure draft

/-- The fields of a record written as an array, and its end. -/
def arrayFields {ρ : Type} : List (Field ρ) → Bool → ρ → Reader ρ
  | [], _, draft => do
    closing ']'
    pure draft
  | field :: rest, first, draft => do
    if ← another ']' first then
      let change ← field.read
      arrayFields rest false (change draft)
    else
      advance
      pure draft

def wantedRecord {ρ α : Type} (shape : Shape ρ α) : Reader α := do
  let draft ← match ← peekSome with
    | '\x7b' => do
      advance
      objectFields shape.fields ((← get).length + 1) true shape.blank
    | '[' => do
      advance
      arrayFields shape.fields true shape.blank
    | c => unfitValue c
  match shape.finish draft with
  | some record => pure record
  | none => throw .unfit

end ListKeeper.Json
