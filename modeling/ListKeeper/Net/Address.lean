import ListKeeper.Text.Decimal

namespace ListKeeper.Net

structure IPv4 where
  a : UInt8
  b : UInt8
  c : UInt8
  d : UInt8
  deriving DecidableEq

structure IPv6 where
  groups : List UInt16
  eight : groups.length = 8
  deriving DecidableEq

/-- An address and a socket number. A version 6 address may be bound to a numbered scope. -/
inductive Address where
  | v4 (ip : IPv4) (socket : UInt16)
  | v6 (ip : IPv6) (scope : UInt32) (socket : UInt16)
  deriving DecidableEq

/-- The value of a digit in a base of at most sixteen. -/
def digitIn? (base : Nat) (c : Char) : Option Nat :=
  let value :=
    if '0' ≤ c ∧ c ≤ '9' then c.toNat - '0'.toNat
    else if 'a' ≤ c ∧ c ≤ 'f' then c.toNat - 'a'.toNat + 10
    else if 'A' ≤ c ∧ c ≤ 'F' then c.toNat - 'A'.toNat + 10
    else base
  if value < base then some value else none

/-- The digits at the front of a text, and what follows them. -/
def spanDigits (base : Nat) : List Char → List Nat × List Char
  | [] => ([], [])
  | c :: rest =>
    match digitIn? base c with
    | some digit =>
      let (digits, rest) := spanDigits base rest
      (digit :: digits, rest)
    | none => ([], c :: rest)

def valueOf (base : Nat) (digits : List Nat) : Nat :=
  digits.foldl (fun value digit => value * base + digit) 0

def mark (wanted : Char) : List Char → Option (List Char)
  | c :: rest => if c = wanted then some rest else none
  | [] => none

/-- One to three digits without leading zeros, below 256. -/
def octet (text : List Char) : Option (UInt8 × List Char) :=
  match spanDigits 10 text with
  | ([], _) => none
  | (first :: more, rest) =>
    let value := valueOf 10 (first :: more)
    if 2 < more.length ∨ (first = 0 ∧ more ≠ []) ∨ 256 ≤ value then none
    else some (UInt8.ofNat value, rest)

/-- Four octets between points. -/
def ipv4 (text : List Char) : Option (IPv4 × List Char) := do
  let (a, rest) ← octet text
  let (b, rest) ← octet (← mark '.' rest)
  let (c, rest) ← octet (← mark '.' rest)
  let (d, rest) ← octet (← mark '.' rest)
  return (⟨a, b, c, d⟩, rest)

/-- A number of any number of digits, below a bound. -/
def numberBelow (bound : Nat) (text : List Char) : Option (Nat × List Char) :=
  match spanDigits 10 text with
  | ([], _) => none
  | (digits, rest) => if valueOf 10 digits < bound then some (valueOf 10 digits, rest) else none

def group (text : List Char) : Option (UInt16 × List Char) :=
  match spanDigits 16 text with
  | ([], _) => none
  | (digits, rest) =>
    if digits.length ≤ 4 then some (UInt16.ofNat (valueOf 16 digits), rest) else none

def groupsOf (ip : IPv4) : List UInt16 :=
  [ip.a.toUInt16 * 256 + ip.b.toUInt16, ip.c.toUInt16 * 256 + ip.d.toUInt16]

/-- The colon in front of every group but the first. -/
def colonUnless (first : Bool) (text : List Char) : Option (List Char) :=
  if first then some text else mark ':' text

/-- Groups between colons, `limit` of them at most and as many as there are, and whether the last
two were a version 4 address. -/
def groups : (limit : Nat) → (first : Bool) → List Char → List UInt16 × Bool × List Char
  | 0, _, text => ([], false, text)
  | limit + 1, first, text =>
    let dotted := if 0 < limit then (colonUnless first text).bind ipv4 else none
    match dotted with
    | some (ip, rest) => (groupsOf ip, true, rest)
    | none =>
      match (colonUnless first text).bind group with
      | none => ([], false, text)
      | some (value, rest) =>
        let (later, dotted, rest) := groups limit false rest
        (value :: later, dotted, rest)

def IPv6.ofGroups? (groups : List UInt16) : Option IPv6 :=
  if eight : groups.length = 8 then some ⟨groups, eight⟩ else none

/-- Eight groups, or fewer on both sides of two colons, which stand for one zero group or more. -/
def ipv6 (text : List Char) : Option (IPv6 × List Char) := do
  let (head, dotted, rest) := groups 8 true text
  if head.length = 8 then return (← IPv6.ofGroups? head, rest)
  if dotted then none
  let rest ← mark ':' (← mark ':' rest)
  let (tail, _, rest) := groups (7 - head.length) true rest
  let zeros := List.replicate (8 - head.length - tail.length) 0
  return (← IPv6.ofGroups? (head ++ zeros ++ tail), rest)

def scope (text : List Char) : UInt32 × List Char :=
  match (mark '%' text).bind (numberBelow UInt32.size) with
  | some (number, rest) => (UInt32.ofNat number, rest)
  | none => (0, text)

def socket (text : List Char) : Option UInt16 := do
  match ← numberBelow UInt16.size (← mark ':' text) with
  | (number, []) => some (UInt16.ofNat number)
  | _ => none

/-- An address of version 4, or of version 6 in square brackets, with a socket number. -/
def Address.read (text : String) : Option Address :=
  match ipv4 text.toList with
  | some (ip, rest) => (socket rest).map (.v4 ip)
  | none => do
    let (ip, rest) ← ipv6 (← mark '[' text.toList)
    let (scope, rest) := scope rest
    let socket ← socket (← mark ']' rest)
    return .v6 ip scope socket

def IPv4.text (ip : IPv4) : String :=
  ".".intercalate ([ip.a, ip.b, ip.c, ip.d].map fun octet => Decimal.ofNat octet.toNat)

def groupsText (groups : List UInt16) : String :=
  ":".intercalate (groups.map fun group => String.ofList (Nat.toDigits 16 group.toNat))

def zerosAhead (groups : List UInt16) : Nat :=
  (groups.takeWhile (· == 0)).length

/-- The first of the longest runs of zeros: where it starts, and its length. -/
def longestZeros (groups : List UInt16) : Nat × Nat :=
  (List.range groups.length).foldl
    (fun (start, length) index =>
      let here := zerosAhead (groups.drop index)
      if length < here then (index, here) else (start, length))
    (0, 0)

def IPv6.text (ip : IPv6) : String :=
  match ip.groups with
  | [0, 0, 0, 0, 0, 0xFFFF, high, low] =>
    "::ffff:" ++ IPv4.text ⟨(high >>> 8).toUInt8, high.toUInt8, (low >>> 8).toUInt8, low.toUInt8⟩
  | groups =>
    let (start, length) := longestZeros groups
    if 1 < length then
      groupsText (groups.take start) ++ "::" ++ groupsText (groups.drop (start + length))
    else groupsText groups

/-- The canonical text of an address. The scope zero is not written. -/
def Address.text : Address → String
  | .v4 ip socket => ip.text ++ ":" ++ Decimal.ofNat socket.toNat
  | .v6 ip scope socket =>
    "[" ++ ip.text ++ (if scope = 0 then "" else "%" ++ Decimal.ofNat scope.toNat) ++ "]:" ++
      Decimal.ofNat socket.toNat

-- The canonical form has no capital letters and no leading zeros, and leaves out the first of two
-- runs of zeros that have the same length.
example :
    (Address.read "[2001:DB8:0:0:001:0:0:1]:443").map Address.text =
      some "[2001:db8::1:0:0:1]:443" := by
  decide +kernel

end ListKeeper.Net
