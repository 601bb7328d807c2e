namespace ListKeeper.Text

/-- The value of an ASCII hexadecimal digit. -/
def hexValue? (byte : UInt8) : Option UInt8 :=
  if 48 ≤ byte ∧ byte ≤ 57 then some (byte - 48)
  else if 65 ≤ byte ∧ byte ≤ 70 then some (byte - 55)
  else if 97 ≤ byte ∧ byte ≤ 102 then some (byte - 87)
  else none

/-- The bytes that an encoded text stands for. A percent sign that two hexadecimal digits do not
follow stands for itself. -/
def percentDecodeBytes : List UInt8 → List UInt8
  | 37 :: high :: low :: rest =>
    match hexValue? high, hexValue? low with
    | some h, some l => (h * 16 + l) :: percentDecodeBytes rest
    | _, _ => 37 :: percentDecodeBytes (high :: low :: rest)
  | byte :: rest => byte :: percentDecodeBytes rest
  | [] => []

/-- The text that an encoded text stands for, if its bytes are UTF-8. -/
def percentDecode? (text : String) : Option String :=
  String.fromUTF8? ⟨(percentDecodeBytes text.toUTF8.toList).toArray⟩

-- Two bytes of one character, and a percent sign that stands for itself.
example : percentDecode? "%C3%A9%2" = some "é%2" := by
  decide +kernel

end ListKeeper.Text
