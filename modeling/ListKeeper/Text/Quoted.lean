import ListKeeper.Text.Shown

namespace ListKeeper.Text

def quotedChar (c : Char) : List Char :=
  if c = '"' then ['\\', '"']
  else if c = '\\' then ['\\', '\\']
  else if c = '\t' then ['\\', 't']
  else if c = '\r' then ['\\', 'r']
  else if c = '\n' then ['\\', 'n']
  else if c = '\x00' then ['\\', '0']
  else if isShown c then [c]
  else '\\' :: 'u' :: '\x7b' :: Nat.toDigits 16 c.toNat ++ ['\x7d']

/-- A text in quotation marks, for diagnostics. -/
def quoted (text : String) : String :=
  String.ofList ('"' :: text.toList.flatMap quotedChar ++ ['"'])

-- A mark that joins the character in front of it is not shown as it is.
example : quoted "a\u0301\"" = "\"a\\u\x7b301\x7d\\\"\"" := by
  decide +kernel

end ListKeeper.Text
