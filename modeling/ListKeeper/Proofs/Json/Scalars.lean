import ListKeeper.Json.Record
import ListKeeper.Json.Value
import ListKeeper.Proofs.Json.Bytes

namespace ListKeeper

namespace Decimal

theorem digit?_eq_some {c : Char} (digit : c.isDigit) : digit? c = some (c.toNat - '0'.toNat) := by
  rw [Char.isDigit, Bool.and_eq_true, decide_eq_true_eq, decide_eq_true_eq] at digit
  exact if_pos digit

theorem extend_eq_ofDigitChars {digits : List Char} (digit : ∀ c ∈ digits, c.isDigit)
    (value : Nat) : extend value digits = some (Nat.ofDigitChars 10 digits value) := by
  induction digits generalizing value with
  | nil => rfl
  | cons c rest ih =>
    rw [extend, digit?_eq_some (digit c (List.mem_cons_self ..))]
    refine (ih (fun c member => digit c (List.mem_cons_of_mem _ member)) _).trans ?_
    rw [Nat.ofDigitChars_cons, Nat.mul_comm]

theorem isDigit_of_mem {n : Nat} {c : Char} (member : c ∈ Nat.toDigits 10 n) : c.isDigit :=
  Nat.isDigit_of_mem_toDigits (by decide) (by decide) member

theorem toDigits_eq_cons (n : Nat) :
    ∃ c digits, Nat.toDigits 10 n = c :: digits ∧ c.isDigit := by
  cases digits : Nat.toDigits 10 n with
  | nil => exact absurd digits Nat.toDigits_ne_nil
  | cons c rest => exact ⟨c, rest, rfl, isDigit_of_mem (digits ▸ List.mem_cons_self ..)⟩

theorem natural?_toDigits (n : Nat) : natural? (Nat.toDigits 10 n) = some n := by
  have value := extend_eq_ofDigitChars (fun _ => isDigit_of_mem (n := n)) 0
  rw [Nat.ofDigitChars_toDigits (by decide) (by decide)] at value
  obtain ⟨first, rest, digits, -⟩ := toDigits_eq_cons n
  rw [digits] at value ⊢
  exact value

/-- No number but zero is written with a zero at its front. -/
theorem toDigits_no_zero {n : Nat} {digits : List Char}
    (zero : Nat.toDigits 10 n = '0' :: digits) : digits = [] := by
  induction n using Nat.strongRecOn generalizing digits with
  | ind n ih =>
    by_cases small : n < 10
    · rw [Nat.toDigits_of_lt_base small] at zero
      exact (List.cons.inj zero).2.symm
    · have large : 10 ≤ n := by omega
      rw [Nat.toDigits_of_base_le (by decide) large] at zero
      obtain ⟨first, rest, front, -⟩ := toDigits_eq_cons (n / 10)
      rw [front] at zero
      obtain ⟨rfl, -⟩ := List.cons.inj zero
      have none := ih (n / 10) (by omega) front
      have value := natural?_toDigits (n / 10)
      rw [front, none] at value
      have zero : n / 10 = 0 := (Option.some.inj value).symm
      omega

theorem toInt32?_toInt (n : Int32) : toInt32? n.toInt = some n := by
  have low := Int32.le_toInt n
  have high := Int32.toInt_lt n
  rw [toInt32?, if_pos (by omega), Int32.ofInt_toInt]

end Decimal

namespace Json

theorem bind_of_ok {α β : Type} {reader : Reader α} {next : α → Reader β} {text rest : List Char}
    {value : α} (first : reader text = .ok (value, rest)) :
    (reader >>= next) text = next value rest := by
  change (reader text >>= fun result => next result.1 result.2) = _
  rw [first]
  rfl

theorem bind_of_eq {α β : Type} {reader : Reader α} {next : α → Reader β} {text text' : List Char}
    (same : reader text = reader text') : (reader >>= next) text = (reader >>= next) text' := by
  change (reader text >>= fun result => next result.1 result.2) = _
  rw [same]
  rfl

theorem map_of_ok {α β : Type} {reader : Reader α} {text rest : List Char} {value : α}
    (first : reader text = .ok (value, rest)) (f : α → β) :
    (do let value ← reader; pure (f value)) text = .ok (f value, rest) :=
  bind_of_ok first

theorem bind_get {β : Type} (next : List Char → Reader β) (text : List Char) :
    (get >>= next : Reader β) text = next text text :=
  rfl

theorem bind_set {β : Type} (next : PUnit → Reader β) (text rest : List Char) :
    (set rest >>= next : Reader β) text = next ⟨⟩ rest :=
  rfl

theorem bind_advance {β : Type} (next : Unit → Reader β) (c : Char) (rest : List Char) :
    (advance >>= next) (c :: rest) = next () rest :=
  rfl

theorem hexValue?_hexDigit : ∀ n < 16, hexValue? (hexDigit n) = some n := by decide

theorem hexDigit_ascii : ∀ n < 16, (hexDigit n).toNat < 128 := by decide

theorem fourHex_digits {high low : Nat} (first : high < 16) (second : low < 16)
    (rest : List Char) :
    fourHex ('0' :: '0' :: hexDigit high :: hexDigit low :: rest) = .ok (high * 16 + low, rest) := by
  have zero : hexValue? '0' = some 0 := rfl
  rw [fourHex, zero, hexValue?_hexDigit high first, hexValue?_hexDigit low second]
  simp

/-- With enough fuel, these are the bytes that are read of the rest of a string. -/
def TailReads (text bytes after : List Char) : Prop :=
  ∀ fuel, text.length < fuel → stringTail fuel text = .ok (bytes, after)

variable {text rest bytes after : List Char} {c : Char}

/-- A character or an escape, and then the rest of the string. -/
theorem TailReads.step (later : TailReads rest bytes after) (front read : List Char)
    (taken : front ≠ [])
    (step : ∀ fuel, stringTail fuel rest = .ok (bytes, after) →
      stringTail (fuel + 1) (front ++ rest) = .ok (read ++ bytes, after)) :
    TailReads (front ++ rest) (read ++ bytes) after := by
  intro fuel enough
  have length := List.length_pos_iff.mpr taken
  rw [List.length_append] at enough
  cases fuel with
  | zero => omega
  | succ fuel => exact step fuel (later fuel (by omega))

/-- A byte that stands for itself in a string. -/
def IsPlain (c : Char) : Prop :=
  c ≠ '"' ∧ c ≠ '\\' ∧ ¬c.toNat < 32

theorem isPlain_of_le (beyond : 128 ≤ c.toNat) : IsPlain c := by
  refine ⟨?_, ?_, by omega⟩
  · rintro rfl
    exact absurd beyond (by decide)
  · rintro rfl
    exact absurd beyond (by decide)

theorem tailReads_plain (plain : IsPlain c) (later : TailReads rest bytes after) :
    TailReads (c :: rest) (c :: bytes) after := by
  refine later.step [c] [c] (List.cons_ne_nil _ _) fun fuel later => ?_
  generalize start : [c] ++ rest = text
  rw [stringTail, bind_get]
  split
  next => cases start
  next => exact absurd (List.cons.inj start).1 plain.1
  next => exact absurd (List.cons.inj start).1 plain.2.1
  next => exact absurd (List.cons.inj start).1 plain.2.1
  next => exact absurd (List.cons.inj start).1 plain.2.1
  next =>
    obtain ⟨rfl, rfl⟩ := List.cons.inj start
    rw [if_neg plain.2.2]
    exact map_of_ok later (_ :: ·)

theorem tailReads_plains {front : List Char} (plain : ∀ c ∈ front, IsPlain c)
    (later : TailReads rest bytes after) : TailReads (front ++ rest) (front ++ bytes) after := by
  induction front with
  | nil => exact later
  | cons c front ih =>
    exact tailReads_plain (plain c (List.mem_cons_self ..))
      (ih fun c member => plain c (List.mem_cons_of_mem _ member))

theorem tailReads_letter {letter : Char} (escapes : letterEscape? letter = some c)
    (later : TailReads rest bytes after) :
    TailReads ('\\' :: letter :: rest) (c :: bytes) after := by
  refine later.step ['\\', letter] [c] (List.cons_ne_nil _ _) fun fuel later => ?_
  unfold letterEscape? at escapes
  split at escapes <;> cases escapes
  all_goals exact map_of_ok later (_ :: ·)

theorem tailReads_hexadecimal {high low : Nat} (first : high < 16) (second : low < 16)
    (later : TailReads rest bytes after) :
    TailReads ('\\' :: 'u' :: '0' :: '0' :: hexDigit high :: hexDigit low :: rest)
      (Text.utf8 (Char.ofNat (high * 16 + low)) ++ bytes) after := by
  refine later.step ['\\', 'u', '0', '0', hexDigit high, hexDigit low] (Text.utf8 _)
    (List.cons_ne_nil _ _) fun fuel later => ?_
  have escaped : escapedChar (high * 16 + low) rest = .ok (Char.ofNat (high * 16 + low), rest) := by
    rw [escapedChar, if_pos (by omega)]
    rfl
  rw [stringTail, bind_get]
  change (set _ >>= fun _ => _ : Reader (List Char)) _ = _
  rw [bind_set]
  change (fourHex >>= fun _ => _) ('0' :: '0' :: hexDigit high :: hexDigit low :: rest) = _
  rw [bind_of_ok (fourHex_digits first second rest), bind_of_ok escaped]
  exact map_of_ok later (_ ++ ·)

/-- A character is written by a letter or by its number, or it stands for itself. -/
theorem escape_cases (c : Char) :
    (∃ letter, escape c = ['\\', letter] ∧ letter.toNat < 128 ∧ c.toNat < 128 ∧
      letterEscape? letter = some c) ∨
      (c.toNat < 32 ∧ escape c =
        ['\\', 'u', '0', '0', hexDigit (c.toNat / 16), hexDigit (c.toNat % 16)]) ∨
      (IsPlain c ∧ escape c = [c]) := by
  unfold escape
  split_ifs with mark slash back feed line home tab control
  · exact Or.inl ⟨'"', rfl, by rw [mark]; decide⟩
  · exact Or.inl ⟨'\\', rfl, by rw [slash]; decide⟩
  · exact Or.inl ⟨'b', rfl, by rw [back]; decide⟩
  · exact Or.inl ⟨'f', rfl, by rw [feed]; decide⟩
  · exact Or.inl ⟨'n', rfl, by rw [line]; decide⟩
  · exact Or.inl ⟨'r', rfl, by rw [home]; decide⟩
  · exact Or.inl ⟨'t', rfl, by rw [tab]; decide⟩
  · exact Or.inr (Or.inl ⟨control, rfl⟩)
  · exact Or.inr (Or.inr ⟨⟨mark, slash, control⟩, rfl⟩)

theorem isPlain_of_mem_utf8 {byte : Char} (plain : IsPlain c) (member : byte ∈ Text.utf8 c) :
    IsPlain byte := by
  by_cases ascii : c.toNat < 128
  · rw [Text.utf8_of_ascii ascii, List.mem_singleton] at member
    rw [member]
    exact plain
  · exact isPlain_of_le (Text.le_of_mem_utf8 (by omega) member)

/-- However a character is written, its bytes are read back, and then the rest of the string. -/
theorem tailReads_escape (later : TailReads rest bytes after) :
    TailReads (Text.encode (escape c) ++ rest) (Text.utf8 c ++ bytes) after := by
  rcases escape_cases c with ⟨letter, written, letters, ascii, escapes⟩ | ⟨control, written⟩ |
    ⟨plain, written⟩
  · rw [written, Text.encode_ascii_cons (by decide), Text.encode_ascii_cons letters,
      Text.utf8_of_ascii ascii]
    exact tailReads_letter escapes later
  · have high : c.toNat / 16 < 16 := by omega
    have low : c.toNat % 16 < 16 := by omega
    have read := tailReads_hexadecimal high low later
    rw [Nat.div_add_mod', Char.ofNat_toNat] at read
    rw [written, Text.encode_of_ascii (by simp [hexDigit_ascii, high, low])]
    exact read
  · rw [written, Text.encode_cons, Text.encode_nil, List.append_nil]
    exact tailReads_plains (fun _ => isPlain_of_mem_utf8 plain) later

theorem tailReads_flatMap (text after : List Char) :
    TailReads (Text.encode (text.flatMap escape) ++ '"' :: after) (Text.encode text) after := by
  induction text with
  | nil =>
    intro fuel enough
    cases fuel with
    | zero => exact absurd enough (Nat.not_lt_zero _)
    | succ fuel => rfl
  | cons c text ih =>
    rw [List.flatMap_cons, Text.encode_append, List.append_assoc]
    exact tailReads_escape ih

theorem stringBody_flatMap (text : String) (after : List Char) :
    stringBody (Text.encode (text.toList.flatMap escape) ++ '"' :: after) = .ok (text, after) := by
  rw [stringBody, bind_get,
    bind_of_ok (tailReads_flatMap text.toList after _ (Nat.lt_succ_self _)), Text.ofUtf8?_encode,
    String.ofList_toList]
  rfl

/-- What can come after a value: the end of the text, of an array or of an object, another member,
or blanks. -/
def Follows (rest : List Char) : Prop :=
  ∀ c ∈ rest.head?, c ∈ [',', ']', '\x7d', ' ', '\n', '\t', '\r']

theorem Follows.cases (follows : Follows rest) : rest = [] ∨
    ∃ c tail, rest = c :: tail ∧ (c = ',' ∨ c = ']' ∨ c = '\x7d' ∨ c = ' ' ∨ c = '\n' ∨ c = '\t' ∨
      c = '\r') := by
  cases rest with
  | nil => exact Or.inl rfl
  | cons c tail => exact Or.inr ⟨c, tail, rfl, by simpa using follows c rfl⟩

/-- What no digit begins. -/
def Stops (rest : List Char) : Prop :=
  ∀ c ∈ rest.head?, Decimal.digit? c = none

theorem Follows.stops (follows : Follows rest) : Stops rest := by
  rcases follows.cases with rfl | ⟨c, tail, rfl, rfl | rfl | rfl | rfl | rfl | rfl | rfl⟩
  all_goals rintro _ ⟨⟩
  all_goals rfl

/-- One digit or more. -/
def AreDigits (digits : List Char) : Prop :=
  digits ≠ [] ∧ ∀ c ∈ digits, c.isDigit

theorem someDigits_append {digits : List Char} (are : AreDigits digits) (stops : Stops rest) :
    someDigits (digits ++ rest) = .ok (digits, rest) := by
  have taken : ∀ c ∈ digits, (Decimal.digit? c).isSome := fun c member => by
    rw [Decimal.digit?_eq_some (are.2 c member)]
    rfl
  have left : (rest.takeWhile fun c => (Decimal.digit? c).isSome) = [] ∧
      (rest.dropWhile fun c => (Decimal.digit? c).isSome) = rest := by
    cases rest with
    | nil => exact ⟨rfl, rfl⟩
    | cons c rest => simp [stops c rfl]
  have all : takeDigits (digits ++ rest) = .ok (digits, rest) := by
    rw [takeDigits, List.takeWhile_append_of_pos taken, List.dropWhile_append_of_pos taken, left.1,
      left.2, List.append_nil]
  rw [someDigits, bind_of_ok all]
  split
  next => exact absurd rfl are.1
  next => rfl

theorem wholeDigits_append {digits : List Char} (are : AreDigits digits)
    (zero : ∀ more, digits = '0' :: more → more = []) (stops : Stops rest) :
    wholeDigits (digits ++ rest) = .ok (digits, rest) := by
  rw [wholeDigits, bind_of_ok (someDigits_append are stops)]
  split
  next => exact absurd (zero _ rfl) (List.cons_ne_nil _ _)
  next => rfl

theorem areDigits_toDigits (n : Nat) : AreDigits (Nat.toDigits 10 n) :=
  ⟨Nat.toDigits_ne_nil, fun _ => Decimal.isDigit_of_mem⟩

theorem fractionPart_of_follows (follows : Follows rest) : fractionPart rest = .ok (none, rest) := by
  rcases follows.cases with rfl | ⟨c, tail, rfl, rfl | rfl | rfl | rfl | rfl | rfl | rfl⟩
  all_goals rfl

theorem exponentPart_of_follows (follows : Follows rest) : exponentPart rest = .ok (none, rest) := by
  rcases follows.cases with rfl | ⟨c, tail, rfl, rfl | rfl | rfl | rfl | rfl | rfl | rfl⟩
  all_goals rfl

/-- A number after its sign. -/
def unsigned (negative : Bool) : Reader NumberText := do
  let whole ← wholeDigits
  let fraction ← fractionPart
  let exponent ← exponentPart
  pure ⟨negative, whole, fraction, exponent⟩

theorem numberText_minus (text : List Char) : numberText ('-' :: text) = unsigned true text :=
  rfl

theorem numberText_digits {digits : List Char} (are : AreDigits digits) (rest : List Char) :
    numberText (digits ++ rest) = unsigned false (digits ++ rest) := by
  obtain ⟨c, more, rfl⟩ := List.exists_cons_of_ne_nil are.1
  have digit := are.2 c (List.mem_cons_self ..)
  generalize start : (c :: more) ++ rest = text
  rw [numberText, bind_get]
  split
  next =>
    obtain ⟨rfl, -⟩ := List.cons.inj start
    cases digit
  next => rfl

theorem unsigned_toDigits (n : Nat) (negative : Bool) (follows : Follows rest) :
    unsigned negative (Nat.toDigits 10 n ++ rest) =
      .ok (⟨negative, Nat.toDigits 10 n, none, none⟩, rest) := by
  rw [unsigned, bind_of_ok (wholeDigits_append (areDigits_toDigits n)
      (fun _ => Decimal.toDigits_no_zero) follows.stops),
    bind_of_ok (fractionPart_of_follows follows), bind_of_ok (exponentPart_of_follows follows)]
  rfl

theorem numberText_ofInt (n : Int32) (follows : Follows rest) :
    ∃ number : NumberText, number.whole? = some n.toInt ∧
      numberText ((Decimal.ofInt n.toInt).toList ++ rest) = .ok (number, rest) := by
  have low := Int32.le_toInt n
  have high := Int32.toInt_lt n
  have size : UInt64.size = 18446744073709551616 := rfl
  cases value : n.toInt with
  | ofNat k =>
    have small : k < UInt64.size := by
      rw [Int.ofNat_eq_natCast] at value
      omega
    rw [Decimal.ofInt, String.toList_ofList, numberText_digits (areDigits_toDigits k)]
    refine ⟨_, ?_, unsigned_toDigits k false follows⟩
    simp only [NumberText.whole?, Decimal.natural?_toDigits, Option.getD_some]
    exact if_pos small
  | negSucc k =>
    have small : 0 < k + 1 ∧ k + 1 ≤ UInt64.size / 2 := by
      rw [Int.negSucc_eq] at value
      omega
    rw [Decimal.ofInt, String.toList_ofList, List.cons_append, numberText_minus]
    refine ⟨_, ?_, unsigned_toDigits (k + 1) true follows⟩
    simp only [NumberText.whole?, Decimal.natural?_toDigits, Option.getD_some]
    exact if_pos small

theorem peekSome_cons {text : List Char} (shown : isBlank c = false) :
    peekSome (c :: text) = .ok (c, c :: text) := by
  have unchanged : peek (c :: text) = .ok (some c, c :: text) := by
    rw [peek, List.dropWhile_cons_of_neg (by simp [shown])]
    rfl
  exact bind_of_ok unchanged

/-- What a value can begin with: no blank, and not the end of an array or object. -/
def Begins (c : Char) : Prop :=
  isBlank c = false ∧ c ≠ ']' ∧ c ≠ '\x7d'

instance (c : Char) : Decidable (Begins c) :=
  inferInstanceAs (Decidable (_ ∧ _ ∧ _))

theorem begins_of_isDigit (digit : c.isDigit) : Begins c := by
  refine ⟨Bool.eq_false_iff.mpr fun blank => ?_, ?_, ?_⟩
  · simp only [isBlank, Bool.or_eq_true, beq_iff_eq] at blank
    rcases blank with ((rfl | rfl) | rfl) | rfl <;> cases digit
  · rintro rfl
    cases digit
  · rintro rfl
    cases digit

theorem ofInt_eq_cons (n : Int) :
    ∃ c text, (Decimal.ofInt n).toList = c :: text ∧ (c = '-' ∨ c.isDigit) ∧ Begins c := by
  cases n with
  | ofNat k =>
    obtain ⟨c, digits, written, digit⟩ := Decimal.toDigits_eq_cons k
    exact ⟨c, digits, by rw [Decimal.ofInt, String.toList_ofList, written], Or.inr digit,
      begins_of_isDigit digit⟩
  | negSucc k =>
    exact ⟨'-', _, by rw [Decimal.ofInt, String.toList_ofList], Or.inl rfl, by decide⟩

theorem wantedInt32_ofInt (n : Int32) (follows : Follows rest) :
    wantedInt32 ((Decimal.ofInt n.toInt).toList ++ rest) = .ok (n, rest) := by
  obtain ⟨value, whole, read⟩ := numberText_ofInt n follows
  obtain ⟨c, text, written, number, begins⟩ := ofInt_eq_cons n.toInt
  have wanted : wantedNumber ((Decimal.ofInt n.toInt).toList ++ rest) = .ok (value, rest) := by
    rw [wantedNumber, bind_of_ok read, if_pos (Or.inl (by rw [whole]; rfl))]
    rfl
  rw [written, List.cons_append] at wanted ⊢
  have digits : c = '-' ∨ (Decimal.digit? c).isSome :=
    number.imp_right fun digit => by rw [Decimal.digit?_eq_some digit]; rfl
  rw [wantedInt32, bind_of_ok (peekSome_cons begins.1), if_pos digits,
    bind_of_ok wanted, whole, Option.bind_some, Decimal.toInt32?_toInt]
  rfl

end Json

end ListKeeper
