namespace ListKeeper.Text

/-- A byte is kept as the character of its number, so that the ASCII part of a text can be read
before it is known whether the text is UTF-8. -/
def ofByte (byte : UInt8) : Char :=
  Char.ofNat byte.toNat

def toByte (c : Char) : UInt8 :=
  UInt8.ofNat c.toNat

/-- The UTF-8 bytes of a character. -/
def utf8 (c : Char) : List Char :=
  (String.utf8EncodeChar c).map ofByte

/-- The UTF-8 bytes of a text. -/
def encode (text : List Char) : List Char :=
  text.flatMap utf8

/-- The text whose UTF-8 bytes are given. -/
def ofUtf8? (bytes : List Char) : Option String :=
  String.fromUTF8? ⟨(bytes.map toByte).toArray⟩

end ListKeeper.Text
