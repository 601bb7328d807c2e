namespace ListKeeper.Http.MediaType

def isToken (c : Char) : Bool :=
  c.isAlphanum || "!#$%&'*+-.^_\x60|~".toList.contains c

def isQuotable (c : Char) : Bool :=
  32 ≤ c.toNat && c.toNat != 127

/-- What follows a quoted value: blanks, and a semicolon if more comes. -/
def afterQuoted : List Char → Option (List Char)
  | [] => some []
  | ';' :: rest => some rest
  | ' ' :: rest => afterQuoted rest
  | _ :: _ => none

/-- The rest of a quoted value and what follows it. `empty` says that nothing has been read yet,
where a quotation mark does not end it. -/
def quotedTail : (empty : Bool) → List Char → Option (List Char)
  | _, [] => none
  | false, '"' :: rest => afterQuoted rest
  | _, c :: rest => if isQuotable c then quotedTail false rest else none

/-- The rest of a plain value and what follows its semicolon. -/
def plainTail : (empty : Bool) → List Char → Option (List Char)
  | _, [] => some []
  | false, ';' :: rest => some rest
  | _, c :: rest => if isToken c then plainTail false rest else none

def parameterValue : List Char → Option (List Char)
  | '"' :: rest => quotedTail true rest
  | text => plainTail true text

/-- The rest of a parameter's name, its value and what follows it. -/
def parameterName : (empty : Bool) → List Char → Option (List Char)
  | _, [] => none
  | false, '=' :: rest => parameterValue rest
  | _, c :: rest => if isToken c then parameterName false rest else none

/-- Whether a text is a sequence of parameters, `fuel` of them and the blanks at most. -/
def areParameters : (fuel : Nat) → List Char → Bool
  | _, [] => true
  | 0, _ => false
  | fuel + 1, ' ' :: rest => areParameters fuel rest
  | fuel + 1, text =>
    match parameterName true text with
    | some rest => areParameters fuel rest
    | none => false

/-- The subtype up to its end, and the parameters behind it. -/
def splitSubtype : List Char → List Char × List Char
  | [] => ([], [])
  | c :: rest =>
    if c = ';' then ([], rest)
    else
      let (subtype, parameters) := splitSubtype rest
      (c :: subtype, parameters)

/-- What follows the last plus sign that is not the first character. -/
def suffixOf? (subtype : List Char) : Option (List Char) :=
  let tail := subtype.drop 1
  if tail.contains '+' then some (tail.reverse.takeWhile (· != '+')).reverse else none

/-- The subtype without its suffix. -/
def stemOf (subtype : List Char) : List Char :=
  match suffixOf? subtype with
  | some suffix => subtype.take (subtype.length - suffix.length - 1)
  | none => subtype

/-- Whether a content type is JSON: an application type whose subtype or suffix is `json`. Blanks
stand in front of a parameter and after a quoted value only, and only the last value may be
missing. -/
def isJson (text : List Char) : Bool :=
  let text := text.map Char.toLower
  let main := text.takeWhile isToken
  match text.dropWhile isToken with
  | '/' :: rest =>
    let (subtype, parameters) := splitSubtype rest
    main == "application".toList && !subtype.isEmpty && subtype.all isToken &&
      areParameters (parameters.length + 1) parameters &&
      (stemOf subtype == "json".toList || suffixOf? subtype == some "json".toList)
  | _ => false

-- A suffix makes a type JSON, and a second suffix takes that away.
example : isJson "application/problem+json; charset=utf-8".toList = true := by
  decide +kernel

example : isJson "application/json+problem+xml".toList = false := by
  decide +kernel

-- A blank after a quoted value is allowed, and none after the subtype.
example : isJson "application/json;x=\"a\" ;y=b".toList = true := by
  decide +kernel

example : isJson "application/json ;y=b".toList = false := by
  decide +kernel

end ListKeeper.Http.MediaType
