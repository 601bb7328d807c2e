import ListKeeper.Text.Decimal

namespace ListKeeper

/-- An instant: seconds since the start of 1970, and nanoseconds after that second. -/
structure Timestamp where
  seconds : Int
  nanoseconds : Nat
  deriving DecidableEq, Inhabited

namespace Timestamp

/-- The instant `nanoseconds` after the given second. -/
def after (seconds : Int) (nanoseconds : Nat) : Timestamp :=
  ⟨seconds + (nanoseconds / 1000000000 : Nat), nanoseconds % 1000000000⟩

structure Date where
  year : Int
  month : Nat
  day : Nat

/-- The Gregorian calendar, carried on in both directions. Years begin in March here, so that the
leap day is the last day of a year, and four centuries make one cycle of 146097 days. -/
def Date.ofDays (days : Int) : Date :=
  let sinceMarch := days + 719468
  let cycle := sinceMarch.fdiv 146097
  let dayOfCycle := (sinceMarch.fmod 146097).toNat
  let yearOfCycle :=
    (dayOfCycle - dayOfCycle / 1460 + dayOfCycle / 36524 - dayOfCycle / 146096) / 365
  let dayOfYear := dayOfCycle - (365 * yearOfCycle + yearOfCycle / 4 - yearOfCycle / 100)
  let monthFromMarch := (5 * dayOfYear + 2) / 153
  let day := dayOfYear - (153 * monthFromMarch + 2) / 5 + 1
  let month := if monthFromMarch < 10 then monthFromMarch + 3 else monthFromMarch - 9
  let year := (yearOfCycle : Int) + cycle * 400 + if month ≤ 2 then 1 else 0
  ⟨year, month, day⟩

/-- Decimal digits, filled up with zeros to a width. -/
def padded (width n : Nat) : String :=
  let digits := Nat.toDigits 10 n
  String.ofList (List.replicate (width - digits.length) '0' ++ digits)

/-- A year from 0 to 9999 has four digits; any other has a sign and at least four. -/
def yearText (year : Int) : String :=
  if 0 ≤ year ∧ year ≤ 9999 then padded 4 year.toNat
  else if year < 0 then "-" ++ padded 4 year.natAbs
  else "+" ++ padded 4 year.natAbs

/-- The fraction of a second in three, six or nine digits, whichever is the shortest that is
exact, and nothing for a whole second. -/
def fractionText (nanoseconds : Nat) : String :=
  if nanoseconds = 0 then ""
  else if nanoseconds % 1000000 = 0 then "." ++ padded 3 (nanoseconds / 1000000)
  else if nanoseconds % 1000 = 0 then "." ++ padded 6 (nanoseconds / 1000)
  else "." ++ padded 9 nanoseconds

/-- Date and time of day in universal time, without a mark for the time zone. -/
def localText (t : Timestamp) : String :=
  let date := Date.ofDays (t.seconds.fdiv 86400)
  let second := (t.seconds.fmod 86400).toNat
  yearText date.year ++ "-" ++ padded 2 date.month ++ "-" ++ padded 2 date.day ++ "T" ++
    padded 2 (second / 3600) ++ ":" ++ padded 2 (second / 60 % 60) ++ ":" ++
    padded 2 (second % 60) ++ fractionText t.nanoseconds

/-- The text of an instant in data. -/
def text (t : Timestamp) : String :=
  t.localText ++ "Z"

/-- The text of an instant with a numeric mark for the time zone. -/
def offsetText (t : Timestamp) : String :=
  t.localText ++ "+00:00"

-- A leap day, and the second before the year zero.
example : (after 951827696 987654321).text = "2000-02-29T12:34:56.987654321Z" := by
  decide +kernel

example : (after (-62167219201) 0).text = "-0001-12-31T23:59:59Z" := by
  decide +kernel

end Timestamp

end ListKeeper
