import ListKeeper.Text.Bytes
import ListKeeper.Text.Decimal

/-!
Reading JSON text for a value of a known shape.

The text is read byte by byte from left to right, and the first thing that is wrong decides the
fault: text that no JSON document begins with is malformed, text that ends too early is cut short,
and text that is fine so far but cannot be the value that is wanted is unfit. So a number where a
string is wanted is unfit as soon as the number ends, whatever follows it, and an array or object
where a plain value is wanted is unfit at its first character.

Values that nobody wants are skipped. Skipping checks the form of the text alone: it accepts
surrogate escapes that stand alone, strings that are not UTF-8 and numbers of any size.
-/
namespace ListKeeper

inductive ReadFault where
  | malformed
  | cutShort
  | unfit
  deriving DecidableEq

/-- Reads a value from the front of a text, whose characters are bytes, and returns what follows
it. -/
abbrev Reader (α : Type) := StateT (List Char) (Except ReadFault) α

namespace Json

def isBlank (c : Char) : Bool :=
  c == ' ' || c == '\n' || c == '\t' || c == '\r'

/-- The next character after blanks, which is not taken yet, and `none` at the end of the text. -/
def peek : Reader (Option Char) := fun text =>
  let rest := text.dropWhile isBlank
  .ok (rest.head?, rest)

/-- The next character after blanks, or the fault of a text that ends here. -/
def peekSome : Reader Char := do
  match ← peek with
  | some c => pure c
  | none => throw .cutShort

def advance : Reader Unit := modify List.tail

def word : List Char → Reader Unit
  | [] => pure ()
  | letter :: letters => do
    match ← get with
    | [] => throw .cutShort
    | c :: rest =>
      if c = letter then
        set rest
        word letters
      else throw .malformed

def hexValue? (c : Char) : Option Nat :=
  if '0' ≤ c ∧ c ≤ '9' then some (c.toNat - '0'.toNat)
  else if 'a' ≤ c ∧ c ≤ 'f' then some (c.toNat - 'a'.toNat + 10)
  else if 'A' ≤ c ∧ c ≤ 'F' then some (c.toNat - 'A'.toNat + 10)
  else none

/-- Four hexadecimal digits. A text with less than four bytes left is cut short, whatever they
are. -/
def fourHex : Reader Nat
  | a :: b :: c :: d :: rest =>
    match hexValue? a, hexValue? b, hexValue? c, hexValue? d with
    | some a, some b, some c, some d => .ok (((a * 16 + b) * 16 + c) * 16 + d, rest)
    | _, _, _, _ => .error .malformed
  | _ => .error .cutShort

/-- The character of a hexadecimal escape whose first four digits are `unit`. The units of a
surrogate pair are written as two escapes in a row, and a surrogate stands for nothing alone. -/
def escapedChar (unit : Nat) : Reader Char := do
  if unit < 0xD800 ∨ 0xDFFF < unit then
    pure (Char.ofNat unit)
  else if 0xDC00 ≤ unit then
    throw .malformed
  else
    word ['\\', 'u']
    let second ← fourHex
    if second < 0xDC00 ∨ 0xDFFF < second then throw .malformed
    else pure (Char.ofNat (0x10000 + (unit - 0xD800) * 1024 + (second - 0xDC00)))

/-- The character that a one-letter escape stands for. -/
def letterEscape? (letter : Char) : Option Char :=
  match letter with
  | '"' => some '"'
  | '\\' => some '\\'
  | '/' => some '/'
  | 'b' => some '\x08'
  | 'f' => some '\x0c'
  | 'n' => some '\n'
  | 'r' => some '\r'
  | 't' => some '\t'
  | _ => none

/-- The UTF-8 bytes of the rest of a string after its opening quotation mark, `fuel` characters and
escapes at most. -/
def stringTail : (fuel : Nat) → Reader (List Char)
  | 0 => throw .cutShort
  | fuel + 1 => do
    match ← get with
    | [] => throw .cutShort
    | '"' :: rest =>
      set rest
      pure []
    | '\\' :: [] => throw .cutShort
    | '\\' :: 'u' :: rest =>
      set rest
      let unit ← fourHex
      let c ← escapedChar unit
      return Text.utf8 c ++ (← stringTail fuel)
    | '\\' :: letter :: rest =>
      match letterEscape? letter with
      | some c =>
        set rest
        return c :: (← stringTail fuel)
      | none => throw .malformed
    | c :: rest =>
      if c.toNat < 32 then throw .malformed
      else
        set rest
        return c :: (← stringTail fuel)

def stringBody : Reader String := do
  match Text.ofUtf8? (← stringTail ((← get).length + 1)) with
  | some text => pure text
  | none => throw .malformed

/-- Skips the rest of a string after its opening quotation mark, `fuel` characters and escapes at
most. -/
def skipStringTail : (fuel : Nat) → Reader Unit
  | 0 => throw .cutShort
  | fuel + 1 => do
    match ← get with
    | [] => throw .cutShort
    | '"' :: rest => set rest
    | '\\' :: [] => throw .cutShort
    | '\\' :: 'u' :: rest =>
      set rest
      let _ ← fourHex
      skipStringTail fuel
    | '\\' :: letter :: rest =>
      if (letterEscape? letter).isSome then
        set rest
        skipStringTail fuel
      else throw .malformed
    | c :: rest =>
      if c.toNat < 32 then throw .malformed
      else
        set rest
        skipStringTail fuel

def skipString : Reader Unit := do
  skipStringTail ((← get).length + 1)

/-- Takes the digits at the front of the text. -/
def takeDigits : Reader (List Char) := fun text =>
  .ok (text.takeWhile fun c => (Decimal.digit? c).isSome, text.dropWhile fun c =>
    (Decimal.digit? c).isSome)

def someDigits : Reader (List Char) := do
  match ← takeDigits with
  | [] => if (← get).isEmpty then throw .cutShort else throw .malformed
  | digits => pure digits

/-- The digits before the point. They begin with a zero only if it is the only one. -/
def wholeDigits : Reader (List Char) := do
  match ← someDigits with
  | '0' :: _ :: _ => throw .malformed
  | digits => pure digits

/-- A number as written: digits before and after the point, and the power of ten. -/
structure NumberText where
  negative : Bool
  whole : List Char
  fraction : Option (List Char)
  exponent : Option Int

def fractionPart : Reader (Option (List Char)) := do
  match ← get with
  | '.' :: rest =>
    set rest
    return some (← someDigits)
  | _ => pure none

def exponentPart : Reader (Option Int) := do
  match ← get with
  | c :: rest =>
    if c = 'e' ∨ c = 'E' then
      set rest
      let negative ← match rest with
        | '-' :: rest => do
          set rest
          pure true
        | '+' :: rest => do
          set rest
          pure false
        | _ => pure false
      let size := ((Decimal.natural? (← someDigits)).getD 0 : Int)
      pure (some (if negative then -size else size))
    else pure none
  | [] => pure none

def numberText : Reader NumberText := do
  let negative ← match ← get with
    | '-' :: rest => do
      set rest
      pure true
    | _ => pure false
  let whole ← wholeDigits
  let fraction ← fractionPart
  let exponent ← exponentPart
  pure ⟨negative, whole, fraction, exponent⟩

-- The double-precision range. A number with a point is read as its leading digits, as many as
-- make a number of 64 bits, times a power of ten. Both factors are rounded to double precision
-- before they are multiplied, so a number just inside the range may come out beyond it.

/-- The number whose digits are those of `value` and then the given ones, as far as it fits 64
bits, and how many digits are left over. -/
def leading (value : Nat) : List Char → Nat × Nat
  | [] => (value, 0)
  | c :: digits =>
    let next := value * 10 + (Decimal.digit? c).getD 0
    if next < UInt64.size then leading next digits else (value, digits.length + 1)

/-- The leading digits of a number, and the power of ten that they are multiplied by. Digits before
the point that are left over count as zeros, even if digits after the point are taken again. -/
def NumberText.scaled (number : NumberText) : Nat × Int :=
  let fraction := number.fraction.getD []
  let (whole, zeros) := leading 0 number.whole
  let (value, dropped) := leading whole fraction
  (value, number.exponent.getD 0 + zeros + dropped - fraction.length)

/-- The double-precision value nearest to a natural number in the range, the even one of two. -/
def nearestDouble (n : Nat) : Nat :=
  let unit := Nat.pow 2 (n.log2 - 52)
  let whole := n / unit
  let rest := n % unit
  if unit < 2 * rest ∨ (unit = 2 * rest ∧ whole % 2 = 1) then (whole + 1) * unit
  else whole * unit

/-- The limit of the double-precision range: numbers from here on round to infinity. -/
def doubleLimit : Nat := Nat.pow 2 1024 - Nat.pow 2 970

/-- The largest power of ten in the double-precision range. -/
def maxPower : Nat := 308

/-- A number that is read as one in the double-precision range. -/
def NumberText.isFinite (number : NumberText) : Bool :=
  let (value, power) := number.scaled
  value = 0 || power < 0 || (power ≤ maxPower &&
    nearestDouble value * nearestDouble (Nat.pow 10 power.toNat) < doubleLimit)

-- The largest value of the range is read, and a number between it and the limit is not.
example : (⟨false, "17976931348623157".toList, none, some 292⟩ : NumberText).isFinite = true := by
  decide +kernel

example : (⟨false, "17976931348623158".toList, none, some 292⟩ : NumberText).isFinite = false := by
  decide +kernel

/-- The whole number that is written, when it is written as one and fits 64 bits, with a sign if
it is negative. Minus zero and larger numbers are read as numbers with a point. -/
def NumberText.whole? (number : NumberText) : Option Int :=
  match number.fraction, number.exponent with
  | none, none =>
    let digits := (Decimal.natural? number.whole).getD 0
    if number.negative then
      if 0 < digits ∧ digits ≤ UInt64.size / 2 then some (-(digits : Int)) else none
    else if digits < UInt64.size then some digits else none
  | _, _ => none

/-- A number. One beyond the double-precision range is malformed, unless it is a whole number of
64 bits. -/
def wantedNumber : Reader NumberText := do
  let number ← numberText
  if number.whole?.isSome ∨ number.isFinite then pure number else throw .malformed

def skipNumber : Reader Unit := fun text =>
  match numberText text with
  | .ok (_, rest) => .ok ((), rest)
  | .error _ => .error .malformed

/-- The fault of a value that has the wrong shape. A plain value is read to its end first. -/
def unfitValue {α : Type} (first : Char) : Reader α := do
  match first with
  | 'n' => word "null".toList
  | 't' => word "true".toList
  | 'f' => word "false".toList
  | '"' =>
    advance
    let _ ← stringBody
  | '[' => pure ()
  | '\x7b' => pure ()
  | c =>
    if c = '-' ∨ (Decimal.digit? c).isSome then
      let _ ← wantedNumber
    else throw .malformed
  throw .unfit

def wantedString : Reader String := do
  match ← peekSome with
  | '"' =>
    advance
    stringBody
  | c => unfitValue c

def wantedInt32 : Reader Int32 := do
  let c ← peekSome
  if c = '-' ∨ (Decimal.digit? c).isSome then
    let number ← wantedNumber
    match number.whole?.bind Decimal.toInt32? with
    | some n => pure n
    | none => throw .unfit
  else unfitValue c

def colon : Reader Unit := do
  if (← peekSome) = ':' then advance else throw .malformed

/-- What stands between two members of an array or object, or ends it: `true` when another member
follows. `first` says that no member has been read yet. -/
def another (close : Char) (first : Bool) : Reader Bool := do
  let c ← peekSome
  if c = close then pure false
  else if first then pure true
  else if c = ',' then
    advance
    if (← peekSome) = close then throw .malformed else pure true
  else throw .malformed

/-- The name of a field, which must be a string. -/
def fieldName : Reader String := do
  if (← peekSome) = '"' then
    advance
    stringBody
  else throw .malformed

/-- Takes the end of an array or object of which no more members are wanted. -/
def closing (close : Char) : Reader Unit := do
  if (← peekSome) = close then advance else throw .malformed

mutual

/-- Skips a value, `fuel` levels and members at most. -/
def skipValue : (fuel : Nat) → Reader Unit
  | 0 => throw .cutShort
  | fuel + 1 => do
    match ← peekSome with
    | 'n' => word "null".toList
    | 't' => word "true".toList
    | 'f' => word "false".toList
    | '"' =>
      advance
      skipString
    | '[' =>
      advance
      skipElements fuel true
    | '\x7b' =>
      advance
      skipFields fuel true
    | c =>
      if c = '-' ∨ (Decimal.digit? c).isSome then skipNumber else throw .malformed

/-- Skips the elements of an array and its end. -/
def skipElements : (fuel : Nat) → (first : Bool) → Reader Unit
  | 0, _ => throw .cutShort
  | fuel + 1, first => do
    if ← another ']' first then
      skipValue fuel
      skipElements fuel false
    else advance

def skipFields : (fuel : Nat) → (first : Bool) → Reader Unit
  | 0, _ => throw .cutShort
  | fuel + 1, first => do
    if ← another '\x7d' first then
      if (← peekSome) = '"' then
        advance
        skipString
        colon
        skipValue fuel
        skipFields fuel false
      else throw .malformed
    else advance

end

/-- Skips a value. Every level and member takes at least one character. -/
def skip : Reader Unit := do
  skipValue (2 * (← get).length + 2)

/-- The elements of an array and its end, `fuel` elements at most. -/
def elements {α : Type} (element : Reader α) : (fuel : Nat) → (first : Bool) → Reader (List α)
  | 0, _ => throw .cutShort
  | fuel + 1, first => do
    if ← another ']' first then
      let value ← element
      return value :: (← elements element fuel false)
    else
      advance
      pure []

/-- An array of values of one shape. -/
def wantedArray {α : Type} (element : Reader α) : Reader (List α) := do
  match ← peekSome with
  | '[' =>
    advance
    elements element ((← get).length + 1) true
  | c => unfitValue c

/-- Reads a whole document: one value with nothing but blanks around it. -/
def readBytes {α : Type} (value : Reader α) (bytes : List UInt8) : Except ReadFault α :=
  match (do
    let result ← value
    match ← peek with
    | none => pure result
    | some _ => throw .malformed : Reader α) (bytes.map Text.ofByte) with
  | .ok (result, _) => .ok result
  | .error fault => .error fault

/-- Reads a whole document from the UTF-8 bytes of a text. -/
def readDocument {α : Type} (value : Reader α) (text : String) : Except ReadFault α :=
  readBytes value text.toUTF8.data.toList

end Json

end ListKeeper
