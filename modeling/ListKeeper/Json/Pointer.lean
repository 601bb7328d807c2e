import ListKeeper.Json.Value

namespace ListKeeper.Json

/-- The steps of a pointer after its first slash, still escaped. -/
def pointerSteps : List Char → List (List Char)
  | [] => [[]]
  | c :: rest =>
    match pointerSteps rest with
    | [] => [[c]]
    | first :: later => if c = '/' then [] :: first :: later else (c :: first) :: later

/-- What a step stands for, in which `~1` is written for a slash and `~0` for a tilde. -/
def unescapeStep : List Char → List Char
  | '~' :: '1' :: rest => '/' :: unescapeStep rest
  | '~' :: '0' :: rest => '~' :: unescapeStep rest
  | c :: rest => c :: unescapeStep rest
  | [] => []

/-- A place in an array: digits without a sign and without leading zeros. -/
def placeOf? (step : List Char) : Option Nat :=
  match step with
  | '0' :: _ :: _ => none
  | _ => Decimal.natural? step

/-- What is found one step into a value. -/
def child? (value : Json) (step : List Char) : Option Json :=
  match value with
  | .object fields => fields.lookup (String.ofList step)
  | .array elements => (placeOf? step).bind fun place => elements[place]?
  | _ => none

/-- The part of a value that a pointer points to. -/
def at? (value : Json) (pointer : String) : Option Json :=
  match pointer.toList with
  | [] => some value
  | '/' :: steps =>
    (pointerSteps steps).foldlM (fun value step => value.child? (unescapeStep step)) value
  | _ => none

end ListKeeper.Json
