import ListKeeper.Text.Decimal

namespace ListKeeper

/-- A JSON value. Numbers are whole: the program writes no others. -/
inductive Json where
  | null
  | bool (value : Bool)
  | number (value : Int)
  | text (value : String)
  | array (elements : List Json)
  | object (fields : List (String × Json))
  deriving Inhabited

namespace Json

def ofInt32 (n : Int32) : Json :=
  .number n.toInt

def ofNat (n : Nat) : Json :=
  .number n

def hexDigit (n : Nat) : Char :=
  Nat.digitChar n

/-- A quotation mark, a backslash and the control characters are escaped, and of these five by a
letter. -/
def escape (c : Char) : List Char :=
  if c = '"' then ['\\', '"']
  else if c = '\\' then ['\\', '\\']
  else if c = '\x08' then ['\\', 'b']
  else if c = '\x0c' then ['\\', 'f']
  else if c = '\n' then ['\\', 'n']
  else if c = '\r' then ['\\', 'r']
  else if c = '\t' then ['\\', 't']
  else if c.toNat < 32 then
    ['\\', 'u', '0', '0', hexDigit (c.toNat / 16), hexDigit (c.toNat % 16)]
  else [c]

def quote (text : String) : List Char :=
  '"' :: text.toList.flatMap escape ++ ['"']

mutual

def print : Json → List Char
  | .null => "null".toList
  | .bool true => "true".toList
  | .bool false => "false".toList
  | .number n => (Decimal.ofInt n).toList
  | .text s => quote s
  | .array [] => ['[', ']']
  | .array (first :: rest) => '[' :: print first ++ printElements rest
  | .object [] => ['\x7b', '\x7d']
  | .object ((key, value) :: rest) => '\x7b' :: quote key ++ ':' :: print value ++ printFields rest

def printElements : List Json → List Char
  | [] => [']']
  | element :: rest => ',' :: print element ++ printElements rest

def printFields : List (String × Json) → List Char
  | [] => ['\x7d']
  | (key, value) :: rest => ',' :: quote key ++ ':' :: print value ++ printFields rest

end

end Json

end ListKeeper
