import ListKeeper.Fault
import ListKeeper.Text.Blank

namespace ListKeeper.Http

/-- The bytes of a header value. -/
abbrev HeaderValue := List UInt8

/-- A byte that can stand in a header value: no control character but the tab. -/
def HeaderValue.allows (byte : UInt8) : Bool :=
  (32 ≤ byte && byte != 127) || byte == 9

/-- The bytes as a header value, if all of them can stand in one. -/
def HeaderValue.ofBytes? (bytes : List UInt8) : Option HeaderValue :=
  if bytes.all HeaderValue.allows then some bytes else none

/-- The text of a header value, if it is visible ASCII with blanks and tabs. -/
def HeaderValue.text? (value : HeaderValue) : Option (List Char) :=
  if value.all fun byte => (32 ≤ byte && byte < 127) || byte == 9 then
    some (value.map fun byte => Char.ofNat byte.toNat)
  else none

/-- The name of the header that tells who calls. -/
def callerHeader : String := "x-user-id"

/-- The user that a header value names: a positive 32-bit number, with blanks around it at most. -/
def callerOf? (value : HeaderValue) : Option UserId :=
  match value.text?.bind fun text => Decimal.int32? (Text.trimChars text) with
  | some number => if 0 < number then some ⟨number⟩ else none
  | none => none

/-- The caller that the header names, which must be there. -/
def identify (header : Option HeaderValue) : Except RequestFault UserId :=
  match header with
  | none => .error (.unauthorized "missing X-User-Id header")
  | some value =>
    match callerOf? value with
    | some user => .ok user
    | none => .error (.unauthorized "invalid X-User-Id header")

end ListKeeper.Http
