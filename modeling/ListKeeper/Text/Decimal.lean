namespace ListKeeper.Decimal

def digit? (c : Char) : Option Nat :=
  if '0' ≤ c ∧ c ≤ '9' then some (c.toNat - '0'.toNat) else none

/-- The number whose digits are those of `value` followed by `digits`. -/
def extend (value : Nat) : List Char → Option Nat
  | [] => some value
  | c :: digits =>
    match digit? c with
    | some d => extend (value * 10 + d) digits
    | none => none

/-- One digit or more, leading zeros allowed. -/
def natural? : List Char → Option Nat
  | [] => none
  | c :: digits => extend 0 (c :: digits)

/-- A number below `bound`, with an optional plus sign. -/
def below? (bound : Nat) (text : List Char) : Option Nat :=
  let digits := match text with
    | '+' :: rest => rest
    | _ => text
  (natural? digits).filter (· < bound)

def integer? : List Char → Option Int
  | '-' :: digits => (natural? digits).map fun n => -(n : Int)
  | '+' :: digits => (natural? digits).map fun n => (n : Int)
  | digits => (natural? digits).map fun n => (n : Int)

/-- The 32-bit value of `n`, when it has one. -/
def toInt32? (n : Int) : Option Int32 :=
  if -2147483648 ≤ n ∧ n ≤ 2147483647 then some (Int32.ofInt n) else none

/-- A 32-bit number with an optional sign. -/
def int32? (text : List Char) : Option Int32 :=
  (integer? text).bind toInt32?

/-- The digits of `n`, after a minus sign when it is negative. -/
def ofInt : Int → String
  | .ofNat n => String.ofList (Nat.toDigits 10 n)
  | .negSucc n => String.ofList ('-' :: Nat.toDigits 10 (n + 1))

def ofInt32 (n : Int32) : String :=
  ofInt n.toInt

def ofNat (n : Nat) : String :=
  String.ofList (Nat.toDigits 10 n)

end ListKeeper.Decimal
