import ListKeeper.Proofs.Json.Scalars

namespace ListKeeper.Json

def AreBlank (text : List Char) : Prop :=
  ∀ c ∈ text, isBlank c

/-- The rest of a string after its opening quotation mark. -/
inductive IsStringTail : List Char → Prop where
  | close : IsStringTail ['"']
  | plain {c : Char} {rest : List Char} (plain : IsPlain c) (later : IsStringTail rest) :
    IsStringTail (c :: rest)
  | letter {letter : Char} {rest : List Char} (escapes : (letterEscape? letter).isSome)
    (later : IsStringTail rest) : IsStringTail ('\\' :: letter :: rest)
  | unit {a b c d : Char} {rest : List Char}
    (hex : ∀ digit ∈ [a, b, c, d], (hexValue? digit).isSome) (later : IsStringTail rest) :
    IsStringTail ('\\' :: 'u' :: a :: b :: c :: d :: rest)

inductive IsFraction : List Char → Prop where
  | none : IsFraction []
  | point {digits : List Char} (are : AreDigits digits) : IsFraction ('.' :: digits)

inductive IsExponent : List Char → Prop where
  | none : IsExponent []
  | power {mark : Char} {sign digits : List Char} (marks : mark = 'e' ∨ mark = 'E')
    (signs : sign = [] ∨ sign = ['-'] ∨ sign = ['+']) (are : AreDigits digits) :
    IsExponent (mark :: (sign ++ digits))

inductive IsNumber : List Char → Prop where
  | number {sign whole fraction exponent : List Char} (signs : sign = [] ∨ sign = ['-'])
    (are : AreDigits whole) (zero : ∀ more, whole = '0' :: more → more = [])
    (fractional : IsFraction fraction) (powers : IsExponent exponent) :
    IsNumber (sign ++ (whole ++ (fraction ++ exponent)))

/-- What stands in front of a member of an array or object: blanks, and a comma between members. -/
inductive Precedes : (first : Bool) → List Char → Prop where
  | first {blanks : List Char} (blank : AreBlank blanks) : Precedes true blanks
  | later {before blanks : List Char} (blank : AreBlank before) (more : AreBlank blanks) :
    Precedes false (before ++ ',' :: blanks)

/-- A value, or what follows the opening bracket of an array or object, or one of its members. -/
inductive Part where
  | value
  | elements (first : Bool)
  | fields (first : Bool)

inductive IsText : Part → List Char → Prop where
  | null : IsText .value ['n', 'u', 'l', 'l']
  | true : IsText .value ['t', 'r', 'u', 'e']
  | false : IsText .value ['f', 'a', 'l', 's', 'e']
  | number {text : List Char} (number : IsNumber text) : IsText .value text
  | string {tail : List Char} (string : IsStringTail tail) : IsText .value ('"' :: tail)
  | array {tail : List Char} (elements : IsText (.elements true) tail) : IsText .value ('[' :: tail)
  | object {tail : List Char} (fields : IsText (.fields true) tail) : IsText .value ('\x7b' :: tail)
  | noElements {first : Bool} {blanks : List Char} (blank : AreBlank blanks) :
    IsText (.elements first) (blanks ++ [']'])
  | element {first : Bool} {before value tail : List Char} (precedes : Precedes first before)
    (element : IsText .value value) (later : IsText (.elements false) tail) :
    IsText (.elements first) (before ++ (value ++ tail))
  | noFields {first : Bool} {blanks : List Char} (blank : AreBlank blanks) :
    IsText (.fields first) (blanks ++ ['\x7d'])
  | field {first : Bool} {before name blanks after value tail : List Char}
    (precedes : Precedes first before) (named : IsStringTail name) (blank : AreBlank blanks)
    (more : AreBlank after) (valued : IsText .value value) (later : IsText (.fields false) tail) :
    IsText (.fields first) (before ++ '"' :: (name ++ (blanks ++ ':' :: (after ++ (value ++ tail)))))

/-- The text of a value, with no blanks around it. -/
def IsValue (text : List Char) : Prop :=
  IsText .value text

variable {text rest : List Char} {first : Bool} {part : Part} {c close : Char}

theorem ascii_of_isBlank (blank : isBlank c) : c.toNat < 128 := by
  simp only [isBlank, Bool.or_eq_true, beq_iff_eq] at blank
  rcases blank with ((rfl | rfl) | rfl) | rfl <;> decide

theorem ascii_of_isDigit (digit : c.isDigit) : c.toNat < 128 := by
  rw [Char.isDigit, Bool.and_eq_true, decide_eq_true_eq, decide_eq_true_eq] at digit
  exact Nat.lt_of_le_of_lt (show c.toNat ≤ 57 from digit.2) (by decide)

theorem ascii_of_hexValue? (hex : (hexValue? c).isSome) : c.toNat < 128 := by
  unfold hexValue? at hex
  split_ifs at hex with digit small large
  · exact Nat.lt_of_le_of_lt (show c.toNat ≤ 57 from digit.2) (by decide)
  · exact Nat.lt_of_le_of_lt (show c.toNat ≤ 102 from small.2) (by decide)
  · exact Nat.lt_of_le_of_lt (show c.toNat ≤ 70 from large.2) (by decide)
  · cases hex

theorem ascii_of_letterEscape? (escapes : (letterEscape? c).isSome) : c.toNat < 128 := by
  unfold letterEscape? at escapes
  split at escapes <;> first | decide | cases escapes

theorem AreBlank.encode_eq (blank : AreBlank text) : Text.encode text = text :=
  Text.encode_of_ascii fun c member => ascii_of_isBlank (blank c member)

theorem IsFraction.ascii (is : IsFraction text) : ∀ c ∈ text, c.toNat < 128 := by
  cases is with
  | none => exact List.forall_mem_nil _
  | point are =>
    exact List.forall_mem_cons.mpr ⟨by decide, fun c digit => ascii_of_isDigit (are.2 c digit)⟩

theorem IsExponent.ascii (is : IsExponent text) : ∀ c ∈ text, c.toNat < 128 := by
  cases is with
  | none => exact List.forall_mem_nil _
  | power marks signs are =>
    refine List.forall_mem_cons.mpr ⟨?_, List.forall_mem_append.mpr ⟨?_, ?_⟩⟩
    · rcases marks with rfl | rfl <;> decide
    · rcases signs with rfl | rfl | rfl <;> simp
    · exact fun c digit => ascii_of_isDigit (are.2 c digit)

theorem IsNumber.encode_eq (is : IsNumber text) : Text.encode text = text := by
  obtain ⟨signs, are, -, fractional, powers⟩ := is
  refine Text.encode_of_ascii (List.forall_mem_append.mpr ⟨?_, List.forall_mem_append.mpr
    ⟨fun c digit => ascii_of_isDigit (are.2 c digit),
      List.forall_mem_append.mpr ⟨fractional.ascii, powers.ascii⟩⟩⟩)
  rcases signs with rfl | rfl <;> simp

theorem IsStringTail.plains {front : List Char} (plain : ∀ c ∈ front, IsPlain c)
    (later : IsStringTail rest) : IsStringTail (front ++ rest) := by
  induction front with
  | nil => exact later
  | cons c front ih =>
    exact .plain (plain c (List.mem_cons_self ..))
      (ih fun c member => plain c (List.mem_cons_of_mem _ member))

theorem IsStringTail.encode (is : IsStringTail text) : IsStringTail (Text.encode text) := by
  induction is with
  | close => exact .close
  | plain plain _ ih =>
    rw [Text.encode_cons]
    exact .plains (fun _ => isPlain_of_mem_utf8 plain) ih
  | letter escapes _ ih =>
    rw [Text.encode_ascii_cons (by decide), Text.encode_ascii_cons (ascii_of_letterEscape? escapes)]
    exact .letter escapes ih
  | @unit a b c d rest hex _ ih =>
    have ascii : ∀ digit ∈ [a, b, c, d], digit.toNat < 128 :=
      fun digit member => ascii_of_hexValue? (hex digit member)
    simp only [List.forall_mem_cons] at ascii
    obtain ⟨first, second, third, fourth, -⟩ := ascii
    rw [Text.encode_ascii_cons (by decide), Text.encode_ascii_cons (by decide),
      Text.encode_ascii_cons first, Text.encode_ascii_cons second, Text.encode_ascii_cons third,
      Text.encode_ascii_cons fourth]
    exact .unit hex ih

theorem Precedes.encode_eq (precedes : Precedes first text) : Text.encode text = text := by
  cases precedes with
  | first blank => exact blank.encode_eq
  | later blank more =>
    rw [Text.encode_append, Text.encode_ascii_cons (by decide), blank.encode_eq, more.encode_eq]

theorem IsText.encode (is : IsText part text) : IsText part (Text.encode text) := by
  induction is with
  | null => exact .null
  | true => exact .true
  | false => exact .false
  | number number => exact .number (number.encode_eq.symm ▸ number)
  | string string =>
    rw [Text.encode_ascii_cons (by decide)]
    exact .string string.encode
  | array _ ih =>
    rw [Text.encode_ascii_cons (by decide)]
    exact .array ih
  | object _ ih =>
    rw [Text.encode_ascii_cons (by decide)]
    exact .object ih
  | noElements blank =>
    rw [Text.encode_append, blank.encode_eq]
    exact .noElements blank
  | element precedes _ _ element later =>
    rw [Text.encode_append, Text.encode_append, precedes.encode_eq]
    exact .element precedes element later
  | noFields blank =>
    rw [Text.encode_append, blank.encode_eq]
    exact .noFields blank
  | field precedes named blank more _ _ value later =>
    rw [Text.encode_append, precedes.encode_eq, Text.encode_ascii_cons (by decide),
      Text.encode_append, Text.encode_append, blank.encode_eq, Text.encode_ascii_cons (by decide),
      Text.encode_append, Text.encode_append, more.encode_eq]
    exact .field precedes named.encode blank more value later

theorem skipStringTail_append (is : IsStringTail text) (rest : List Char) {fuel : Nat}
    (enough : text.length ≤ fuel) : skipStringTail fuel (text ++ rest) = .ok ((), rest) := by
  induction is generalizing fuel with
  | close =>
    obtain ⟨fuel, rfl⟩ : ∃ n, fuel = n + 1 := ⟨fuel - 1, by simp at enough; omega⟩
    rfl
  | @plain c tail plain _ ih =>
    rw [List.length_cons] at enough
    obtain ⟨fuel, rfl⟩ : ∃ n, fuel = n + 1 := ⟨fuel - 1, by omega⟩
    generalize start : (c :: tail) ++ rest = text
    rw [skipStringTail, bind_get]
    split
    next => cases start
    next => exact absurd (List.cons.inj start).1 plain.1
    next => exact absurd (List.cons.inj start).1 plain.2.1
    next => exact absurd (List.cons.inj start).1 plain.2.1
    next => exact absurd (List.cons.inj start).1 plain.2.1
    next =>
      obtain ⟨rfl, rfl⟩ := List.cons.inj start
      rw [if_neg plain.2.2]
      exact ih (by omega)
  | @letter letter tail escapes _ ih =>
    rw [List.length_cons, List.length_cons] at enough
    obtain ⟨fuel, rfl⟩ : ∃ n, fuel = n + 1 := ⟨fuel - 1, by omega⟩
    have later := @ih fuel (by omega)
    unfold letterEscape? at escapes
    split at escapes <;> first | exact later | cases escapes
  | @unit a b c d tail hex _ ih =>
    simp only [List.length_cons] at enough
    obtain ⟨fuel, rfl⟩ : ∃ n, fuel = n + 1 := ⟨fuel - 1, by omega⟩
    have later := @ih fuel (by omega)
    simp only [List.forall_mem_cons, Option.isSome_iff_exists] at hex
    obtain ⟨⟨w, first⟩, ⟨x, second⟩, ⟨y, third⟩, ⟨z, fourth⟩, -⟩ := hex
    have unit : fourHex (a :: b :: c :: d :: (tail ++ rest)) =
        .ok (((w * 16 + x) * 16 + y) * 16 + z, tail ++ rest) := by
      simp only [fourHex, first, second, third, fourth]
    rw [skipStringTail, bind_get]
    change (set _ >>= fun _ => _ : Reader Unit) _ = _
    rw [bind_set]
    change (fourHex >>= fun _ => _) (a :: b :: c :: d :: (tail ++ rest)) = _
    rw [bind_of_ok unit]
    exact later

theorem skipString_append (is : IsStringTail text) (rest : List Char) :
    skipString (text ++ rest) = .ok ((), rest) := by
  rw [skipString, bind_get]
  exact skipStringTail_append is rest (by rw [List.length_append]; omega)

/-- No digit begins what comes after the whole part of a number, and no point what comes after its
fraction. -/
theorem IsExponent.stops (is : IsExponent text) (follows : Follows rest) :
    Stops (text ++ rest) ∧ fractionPart (text ++ rest) = .ok (Option.none, text ++ rest) := by
  cases is with
  | none => exact ⟨follows.stops, fractionPart_of_follows follows⟩
  | power marks _ _ =>
    rcases marks with rfl | rfl
    all_goals exact ⟨by rintro _ ⟨⟩; rfl, rfl⟩

theorem exponentPart_append (is : IsExponent text) (follows : Follows rest) :
    ∃ power, exponentPart (text ++ rest) = .ok (power, rest) := by
  cases is with
  | none => exact ⟨none, exponentPart_of_follows follows⟩
  | @power mark sign digits marks signs are =>
    have size (negative : Bool) : ∃ power, (do
        let size := ((Decimal.natural? (← someDigits)).getD 0 : Int)
        pure (some (if negative then -size else size)) : Reader (Option Int)) (digits ++ rest) =
          .ok (power, rest) :=
      ⟨_, map_of_ok (someDigits_append are follows.stops) _⟩
    rw [List.cons_append, List.append_assoc, exponentPart, bind_get]
    simp only [if_pos marks]
    rcases signs with rfl | rfl | rfl
    · obtain ⟨c, more, rfl⟩ := List.exists_cons_of_ne_nil are.1
      have digit := are.2 c (List.mem_cons_self ..)
      simp only [List.nil_append, List.cons_append]
      split
      next _ start =>
        obtain ⟨rfl, -⟩ := List.cons.inj start
        cases digit
      next _ start =>
        obtain ⟨rfl, -⟩ := List.cons.inj start
        cases digit
      next => exact size false
    · exact size true
    · exact size false

theorem unsigned_append {whole fraction exponent : List Char} (negative : Bool)
    (are : AreDigits whole) (zero : ∀ more, whole = '0' :: more → more = [])
    (fractional : IsFraction fraction) (powers : IsExponent exponent) (follows : Follows rest) :
    ∃ number, unsigned negative (whole ++ (fraction ++ (exponent ++ rest))) = .ok (number, rest) := by
  obtain ⟨stops, noPoint⟩ := powers.stops follows
  obtain ⟨power, read⟩ := exponentPart_append powers follows
  cases fractional with
  | none =>
    refine ⟨⟨negative, whole, none, power⟩, ?_⟩
    rw [List.nil_append, unsigned, bind_of_ok (wholeDigits_append are zero stops),
      bind_of_ok noPoint, bind_of_ok read]
    rfl
  | @point digits fine =>
    have point : fractionPart ('.' :: (digits ++ (exponent ++ rest))) =
        .ok (some digits, exponent ++ rest) := map_of_ok (someDigits_append fine stops) some
    refine ⟨⟨negative, whole, some digits, power⟩, ?_⟩
    rw [List.cons_append, unsigned,
      bind_of_ok (wholeDigits_append are zero (by rintro _ ⟨⟩; rfl)), bind_of_ok point,
      bind_of_ok read]
    rfl

theorem skipNumber_append (is : IsNumber text) (follows : Follows rest) :
    skipNumber (text ++ rest) = .ok ((), rest) := by
  have read (number : ∃ number, numberText (text ++ rest) = .ok (number, rest)) :
      skipNumber (text ++ rest) = .ok ((), rest) := by
    obtain ⟨number, read⟩ := number
    rw [skipNumber, read]
  obtain ⟨signs, are, zero, fractional, powers⟩ := is
  simp only [List.append_assoc] at read ⊢
  refine read ?_
  rcases signs with rfl | rfl
  · rw [List.nil_append, numberText_digits are]
    exact unsigned_append false are zero fractional powers follows
  · rw [List.singleton_append, numberText_minus]
    exact unsigned_append true are zero fractional powers follows

theorem peekSome_append {blanks : List Char} (blank : AreBlank blanks) (text : List Char) :
    peekSome (blanks ++ text) = peekSome text := by
  have seen : peek text = .ok ((text.dropWhile isBlank).head?, text.dropWhile isBlank) := rfl
  have same : peek (blanks ++ text) = peek text := by
    rw [peek, peek, List.dropWhile_append_of_pos blank]
  rw [peekSome, bind_of_ok (same.trans seen), bind_of_ok seen]

theorem peekSome_blanks {blanks : List Char} (blank : AreBlank blanks) (shown : isBlank c = false)
    (text : List Char) : peekSome (blanks ++ c :: text) = .ok (c, c :: text) :=
  (peekSome_append blank _).trans (peekSome_cons shown)

/-- Blanks in front of a value are no part of it. -/
theorem skipValue_blanks {blanks : List Char} (blank : AreBlank blanks) (fuel : Nat)
    (text : List Char) : skipValue (fuel + 1) (blanks ++ text) = skipValue (fuel + 1) text := by
  rw [skipValue]
  exact bind_of_eq (peekSome_append blank text)

theorem another_close {blanks : List Char} (blank : AreBlank blanks) (shown : isBlank close = false)
    (first : Bool) (text : List Char) :
    another close first (blanks ++ close :: text) = .ok (false, close :: text) := by
  rw [another, bind_of_ok (peekSome_blanks blank shown text), if_pos rfl]
  rfl

theorem another_member {before : List Char} (precedes : Precedes first before)
    (shown : isBlank c = false) (other : c ≠ close) (separate : ',' ≠ close) (text : List Char) :
    another close first (before ++ c :: text) = .ok (true, c :: text) := by
  cases precedes with
  | first blank =>
    rw [another, bind_of_ok (peekSome_blanks blank shown text), if_neg other]
    rfl
  | @later before blanks blank more =>
    rw [another, List.append_assoc, List.cons_append,
      bind_of_ok (peekSome_blanks blank (by decide) _), if_neg separate, if_neg Bool.false_ne_true,
      if_pos rfl, bind_advance, bind_of_ok (peekSome_blanks more shown text), if_neg other]
    rfl

theorem colon_blanks {blanks : List Char} (blank : AreBlank blanks) (rest : List Char) :
    colon (blanks ++ ':' :: rest) = .ok ((), rest) := by
  rw [colon, bind_of_ok (peekSome_blanks blank (by decide) rest)]
  rfl

theorem IsNumber.begins (is : IsNumber text) :
    ∃ c tail, text = c :: tail ∧ (c = '-' ∨ c.isDigit) := by
  obtain ⟨signs, are, -, -, -⟩ := is
  obtain ⟨c, more, rfl⟩ := List.exists_cons_of_ne_nil are.1
  rcases signs with rfl | rfl
  · exact ⟨_, _, rfl, Or.inr (are.2 c (List.mem_cons_self ..))⟩
  · exact ⟨_, _, rfl, Or.inl rfl⟩

theorem begins_of_number (number : c = '-' ∨ c.isDigit) : Begins c := by
  rcases number with rfl | digit
  · decide
  · exact begins_of_isDigit digit

theorem IsValue.begins (is : IsValue text) : ∃ c tail, text = c :: tail ∧ Begins c := by
  cases is with
  | number number =>
    obtain ⟨c, tail, rfl, front⟩ := number.begins
    exact ⟨c, tail, rfl, begins_of_number front⟩
  | _ => exact ⟨_, _, rfl, by decide⟩

theorem follows_of_blank {blanks : List Char} (blank : AreBlank blanks) (follows : Follows rest) :
    Follows (blanks ++ rest) := by
  cases blanks with
  | nil => exact follows
  | cons c more =>
    have shown := blank c (List.mem_cons_self ..)
    simp only [isBlank, Bool.or_eq_true, beq_iff_eq] at shown
    rcases shown with ((rfl | rfl) | rfl) | rfl
    all_goals
      rintro _ ⟨⟩
      decide

theorem Precedes.follows (precedes : Precedes false text) (rest : List Char) :
    Follows (text ++ rest) := by
  cases precedes with
  | later blank =>
    rw [List.append_assoc]
    exact follows_of_blank blank (by rintro _ ⟨⟩; decide)

/-- What comes after a member may follow a value. -/
theorem IsText.follows (is : IsText part text)
    (later : part = .elements Bool.false ∨ part = .fields Bool.false) (rest : List Char) :
    Follows (text ++ rest) := by
  cases is with
  | noElements blank =>
    rw [List.append_assoc]
    exact follows_of_blank blank (by rintro _ ⟨⟩; decide)
  | noFields blank =>
    rw [List.append_assoc]
    exact follows_of_blank blank (by rintro _ ⟨⟩; decide)
  | @element first _ _ _ precedes =>
    obtain rfl : first = Bool.false := by simpa using later
    rw [List.append_assoc]
    exact precedes.follows _
  | @field first _ _ _ _ _ _ precedes =>
    obtain rfl : first = Bool.false := by simpa using later
    rw [List.append_assoc]
    exact precedes.follows _
  | _ => simp at later

def skipPart : Part → (fuel : Nat) → Reader Unit
  | .value, fuel => skipValue fuel
  | .elements first, fuel => skipElements fuel first
  | .fields first, fuel => skipFields fuel first

theorem IsText.length_pos (is : IsText part text) : 0 < text.length := by
  induction is with
  | number number =>
    obtain ⟨_, are, _, _, _⟩ := number
    have whole := List.length_pos_iff.mpr are.1
    simp only [List.length_append]
    omega
  | _ => simp; try omega

theorem skipValue_number (is : IsNumber text) (fuel : Nat) (follows : Follows rest) :
    skipValue (fuel + 1) (text ++ rest) = .ok ((), rest) := by
  have skipped := skipNumber_append is follows
  obtain ⟨c, tail, rfl, front⟩ := is.begins
  have digits : c = '-' ∨ (Decimal.digit? c).isSome :=
    front.imp_right fun digit => by rw [Decimal.digit?_eq_some digit]; rfl
  rw [List.cons_append] at skipped ⊢
  rw [skipValue, bind_of_ok (peekSome_cons (begins_of_number front).1)]
  split
  iterate 6 exact absurd front (by decide)
  rw [if_pos digits]
  exact skipped

/-- With fuel for each of its characters, a value is skipped to its end, and so is an array or
object from one of its members on. -/
theorem skipPart_append (is : IsText part text) {fuel : Nat} (enough : text.length ≤ fuel + 1)
    (follows : Follows rest) : skipPart part (fuel + 1) (text ++ rest) = .ok ((), rest) := by
  induction is generalizing fuel rest with
  | null => rfl
  | true => rfl
  | false => rfl
  | number number => exact skipValue_number number fuel follows
  | string string => exact skipString_append string rest
  | array elements ih =>
    have length := elements.length_pos
    rw [List.length_cons] at enough
    obtain ⟨fuel, rfl⟩ : ∃ n, fuel = n + 1 := ⟨fuel - 1, by omega⟩
    exact ih (by omega) follows
  | object fields ih =>
    have length := fields.length_pos
    rw [List.length_cons] at enough
    obtain ⟨fuel, rfl⟩ : ∃ n, fuel = n + 1 := ⟨fuel - 1, by omega⟩
    exact ih (by omega) follows
  | @noElements first blanks blank =>
    have last : another ']' first (blanks ++ ']' :: rest) = .ok (Bool.false, ']' :: rest) :=
      another_close blank (by decide) first rest
    rw [List.append_assoc, List.singleton_append, skipPart, skipElements, bind_of_ok last,
      if_neg Bool.false_ne_true]
    rfl
  | @element first before value tail precedes element later ih ih' =>
    have length := element.length_pos
    have length' := later.length_pos
    simp only [List.length_append] at enough
    obtain ⟨fuel, rfl⟩ : ∃ n, fuel = n + 1 := ⟨fuel - 1, by omega⟩
    have skipped : skipValue (fuel + 1) (value ++ (tail ++ rest)) = .ok ((), tail ++ rest) :=
      ih (by omega) (later.follows (Or.inl rfl) rest)
    have more : another ']' first (before ++ (value ++ (tail ++ rest))) =
        .ok (Bool.true, value ++ (tail ++ rest)) := by
      obtain ⟨c, text, rfl, begins⟩ := IsValue.begins element
      exact another_member precedes begins.1 begins.2.1 (by decide) _
    rw [List.append_assoc, List.append_assoc, skipPart, skipElements, bind_of_ok more, if_pos rfl,
      bind_of_ok skipped]
    exact ih' (by omega) follows
  | @noFields first blanks blank =>
    have last : another '\x7d' first (blanks ++ '\x7d' :: rest) = .ok (Bool.false, '\x7d' :: rest) :=
      another_close blank (by decide) first rest
    rw [List.append_assoc, List.singleton_append, skipPart, skipFields, bind_of_ok last,
      if_neg Bool.false_ne_true]
    rfl
  | @field first before name blanks after value tail precedes named blank more valued later ih ih' =>
    have length := valued.length_pos
    have length' := later.length_pos
    simp only [List.length_append, List.length_cons] at enough
    obtain ⟨fuel, rfl⟩ : ∃ n, fuel = n + 1 := ⟨fuel - 1, by omega⟩
    have skipped : skipValue (fuel + 1) (value ++ (tail ++ rest)) = .ok ((), tail ++ rest) :=
      ih (by omega) (later.follows (Or.inr rfl) rest)
    have values : colon (blanks ++ ':' :: (after ++ (value ++ (tail ++ rest)))) =
        .ok ((), after ++ (value ++ (tail ++ rest))) := colon_blanks blank _
    have member : another '\x7d' first (before ++ '"' :: (name ++ (blanks ++ ':' ::
        (after ++ (value ++ (tail ++ rest)))))) = .ok (Bool.true, '"' :: (name ++ (blanks ++ ':' ::
          (after ++ (value ++ (tail ++ rest)))))) :=
      another_member precedes (by decide) (by decide) (by decide) _
    simp only [List.append_assoc, List.cons_append]
    rw [skipPart, skipFields, bind_of_ok member, if_pos rfl,
      bind_of_ok (peekSome_cons (by decide)), if_pos rfl, bind_advance,
      bind_of_ok (skipString_append named _), bind_of_ok values,
      bind_of_ok ((skipValue_blanks more _ _).trans skipped)]
    exact ih' (by omega) follows

/-- Any value is skipped to its end. -/
theorem skip_append (is : IsValue text) (follows : Follows rest) :
    skip (text ++ rest) = .ok ((), rest) := by
  rw [skip, bind_get]
  exact skipPart_append is (by rw [List.length_append]; omega) follows

end ListKeeper.Json
