import ListKeeper.Http.Header
import ListKeeper.Proofs.Json.Scalars

namespace ListKeeper

namespace Decimal

theorem isDigit_of_digit? {c : Char} {digit : Nat} (value : digit? c = some digit) : c.isDigit := by
  unfold digit? at value
  split at value
  next digit =>
    rw [Char.isDigit, Bool.and_eq_true, decide_eq_true_eq, decide_eq_true_eq]
    exact digit
  next => cases value

theorem isDigit_of_extend {digits : List Char} {value n : Nat} (read : extend value digits = some n) :
    ∀ c ∈ digits, c.isDigit := by
  induction digits generalizing value with
  | nil => exact List.forall_mem_nil _
  | cons c rest ih =>
    rw [extend] at read
    cases digit : digit? c with
    | none =>
      rw [digit] at read
      cases read
    | some d =>
      rw [digit] at read
      exact List.forall_mem_cons.mpr ⟨isDigit_of_digit? digit, ih read⟩

theorem natural?_eq_some {digits : List Char} {n : Nat} :
    natural? digits = some n ↔ Json.AreDigits digits ∧ n = Nat.ofDigitChars 10 digits 0 := by
  cases digits with
  | nil => simp [natural?, Json.AreDigits]
  | cons c rest =>
    rw [natural?]
    constructor
    · intro read
      have digit := isDigit_of_extend read
      rw [extend_eq_ofDigitChars digit] at read
      exact ⟨⟨List.cons_ne_nil _ _, digit⟩, (Option.some.inj read).symm⟩
    · rintro ⟨are, rfl⟩
      exact extend_eq_ofDigitChars are.2 0

theorem toInt32?_eq_some {n : Int} {number : Int32} :
    toInt32? n = some number ↔ number.toInt = n := by
  constructor
  · intro read
    unfold toInt32? at read
    split at read
    next fits =>
      rw [← Option.some.inj read]
      exact Int32.toInt_ofInt_of_le fits.1 (by omega)
    next => cases read
  · rintro rfl
    exact toInt32?_toInt number

theorem int32?_eq_some {text : List Char} {number : Int32} :
    int32? text = some number ↔ integer? text = some number.toInt := by
  rw [int32?, Option.bind_eq_some_iff]
  constructor
  · rintro ⟨n, read, fits⟩
    rw [read, toInt32?_eq_some.mp fits]
  · exact fun read => ⟨number.toInt, read, toInt32?_toInt number⟩

/-- The positive numbers that are read have digits, after a plus sign or none. -/
theorem integer?_positive {text : List Char} {n : Int} (positive : 0 < n) :
    integer? text = some n ↔ ∃ sign digits, text = sign ++ digits ∧
      (sign = [] ∨ sign = ['+']) ∧ Json.AreDigits digits ∧ n = Nat.ofDigitChars 10 digits 0 := by
  constructor
  · intro read
    unfold integer? at read
    split at read
    next digits =>
      cases natural : natural? digits with
      | none => simp [natural] at read
      | some size =>
        obtain rfl : -(size : Int) = n := by simpa [natural] using read
        omega
    next digits =>
      cases natural : natural? digits with
      | none => simp [natural] at read
      | some size =>
        obtain rfl : (size : Int) = n := by simpa [natural] using read
        obtain ⟨are, rfl⟩ := natural?_eq_some.mp natural
        exact ⟨['+'], digits, rfl, Or.inr rfl, are, rfl⟩
    next =>
      cases natural : natural? text with
      | none => simp [natural] at read
      | some size =>
        obtain rfl : (size : Int) = n := by simpa [natural] using read
        obtain ⟨are, rfl⟩ := natural?_eq_some.mp natural
        exact ⟨[], text, rfl, Or.inl rfl, are, rfl⟩
  · rintro ⟨sign, digits, rfl, signs, are, rfl⟩
    have natural := natural?_eq_some.mpr ⟨are, rfl⟩
    rcases signs with rfl | rfl
    · obtain ⟨c, more, rfl⟩ := List.exists_cons_of_ne_nil are.1
      have digit := are.2 c (List.mem_cons_self ..)
      rw [List.nil_append, integer?, natural]
      · rfl
      · rintro _ ⟨⟩
        cases digit
      · rintro _ ⟨⟩
        cases digit
    · rw [List.singleton_append, integer?, natural]
      rfl

end Decimal

namespace Text

theorem trimChars_eq (text : List Char) :
    ∃ front back, text = front ++ (trimChars text ++ back) ∧
      ∀ c ∈ front ++ back, isBlank c := by
  refine ⟨text.takeWhile isBlank, ((text.dropWhile isBlank).reverse.takeWhile isBlank).reverse,
    ?_, ?_⟩
  · rw [trimChars, ← List.reverse_append, List.takeWhile_append_dropWhile, List.reverse_reverse,
      List.takeWhile_append_dropWhile]
  · intro c member
    rcases List.mem_append.mp member with front | back
    · exact List.mem_takeWhile_imp front
    · exact List.mem_takeWhile_imp (List.mem_reverse.mp back)

/-- Blanks around a text are taken away if it has none at its own ends. -/
theorem trimChars_of_blank {front text back : List Char} (shown : text ≠ [])
    (blank : ∀ c ∈ front ++ back, isBlank c) (first : ∀ c ∈ text.head?, isBlank c = false)
    (last : ∀ c ∈ text.getLast?, isBlank c = false) :
    trimChars (front ++ (text ++ back)) = text := by
  have dropped (text rest : List Char) (shown : text ≠ [])
      (first : ∀ c ∈ text.head?, isBlank c = false) :
      (text ++ rest).dropWhile isBlank = text ++ rest := by
    obtain ⟨c, more, rfl⟩ := List.exists_cons_of_ne_nil shown
    rw [List.cons_append, List.dropWhile_cons_of_neg (by simp [first c rfl])]
  have before : ∀ c ∈ front, isBlank c := fun c member => blank c (List.mem_append_left _ member)
  have behind : ∀ c ∈ back.reverse, isBlank c :=
    fun c member => blank c (List.mem_append_right _ (List.mem_reverse.mp member))
  have reversed := dropped text.reverse [] (List.reverse_ne_nil_iff.mpr shown)
    (by rwa [List.head?_reverse])
  rw [List.append_nil] at reversed
  rw [trimChars, List.dropWhile_append_of_pos before, dropped text back shown first,
    List.reverse_append, List.dropWhile_append_of_pos behind, reversed, List.reverse_reverse]

end Text

namespace Http

/-- This is how a header value names a user. -/
def NamesUser (value : HeaderValue) (user : UserId) : Prop :=
  ∃ front sign digits back : List Char,
    value.map Text.ofByte = front ++ (sign ++ (digits ++ back)) ∧
      (∀ c ∈ front ++ back, c = ' ' ∨ c = '\t') ∧ (sign = [] ∨ sign = ['+']) ∧
        (digits ≠ [] ∧ ∀ c ∈ digits, c.isDigit) ∧
          user.number.toInt = Nat.ofDigitChars 10 digits 0 ∧ 0 < user.number.toInt

/-- A character of a header value that can be read as text. -/
def IsVisible (c : Char) : Prop :=
  (32 ≤ c.toNat ∧ c.toNat < 127) ∨ c = '\t'

theorem isVisible_ofByte (byte : UInt8) :
    IsVisible (Text.ofByte byte) ↔ ((32 ≤ byte && byte < 127) || byte == 9) = true := by
  have tab : Text.ofByte byte = '\t' ↔ byte = 9 := by
    rw [← Char.toNat_inj, Text.toNat_ofByte, ← UInt8.toNat_inj]
    rfl
  rw [IsVisible, tab, Text.toNat_ofByte]
  simp [UInt8.le_iff_toNat_le, UInt8.lt_iff_toNat_lt]

theorem text?_eq_some {value : HeaderValue} {text : List Char} :
    value.text? = some text ↔ text = value.map Text.ofByte ∧ ∀ c ∈ text, IsVisible c := by
  have visible : (∀ c ∈ value.map Text.ofByte, IsVisible c) ↔
      (value.all fun byte => (32 ≤ byte && byte < 127) || byte == 9) = true := by
    rw [List.forall_mem_map, List.all_eq_true]
    exact forall₂_congr fun byte _ => isVisible_ofByte byte
  rw [HeaderValue.text?]
  split
  next all =>
    constructor
    · rintro ⟨⟩
      exact ⟨rfl, visible.mpr all⟩
    · rintro ⟨rfl, _⟩
      rfl
  next some =>
    constructor
    · rintro ⟨⟩
    · rintro ⟨rfl, all⟩
      exact absurd (visible.mp all) some

theorem isBlank_iff {c : Char} (visible : IsVisible c) : Text.isBlank c ↔ c = ' ' ∨ c = '\t' := by
  constructor
  · intro blank
    rcases visible with ⟨low, high⟩ | tab
    · simp [Text.isBlank, Text.blankRanges] at blank
      have space : c.toNat = ' '.toNat := by
        change c.toNat = 32
        omega
      exact Or.inl (Char.toNat_inj.mp space)
    · exact Or.inr tab
  · rintro (rfl | rfl) <;> decide

theorem isVisible_of_isDigit {c : Char} (digit : c.isDigit) : IsVisible c := by
  rw [Char.isDigit, Bool.and_eq_true, decide_eq_true_eq, decide_eq_true_eq] at digit
  have low : 48 ≤ c.toNat := digit.1
  have high : c.toNat ≤ 57 := digit.2
  exact Or.inl (by omega)

theorem isBlank_of_isDigit {c : Char} (digit : c.isDigit) : Text.isBlank c = false := by
  refine Bool.eq_false_iff.mpr fun blank => ?_
  rcases (isBlank_iff (isVisible_of_isDigit digit)).mp blank with rfl | rfl <;> cases digit

/-- The text of a number, which is visible and has no blanks at its ends. -/
theorem signed_digits {sign digits : List Char} (signs : sign = [] ∨ sign = ['+'])
    (are : Json.AreDigits digits) :
    sign ++ digits ≠ [] ∧ (∀ c ∈ sign ++ digits, IsVisible c ∧ Text.isBlank c = false) := by
  refine ⟨by simp [are.1], fun c member => ?_⟩
  rcases List.mem_append.mp member with sign | digit
  · rcases signs with rfl | rfl
    · cases sign
    · rw [List.mem_singleton.mp sign]
      exact ⟨Or.inl (by decide), by decide⟩
  · exact ⟨isVisible_of_isDigit (are.2 c digit), isBlank_of_isDigit (are.2 c digit)⟩

theorem callerOf?_eq_some {value : HeaderValue} {user : UserId} :
    callerOf? value = some user ↔ NamesUser value user := by
  constructor
  · intro called
    unfold callerOf? at called
    split at called
    next number read =>
      obtain ⟨text, shown, read⟩ := Option.bind_eq_some_iff.mp read
      obtain ⟨rfl, visible⟩ := text?_eq_some.mp shown
      split at called
      next positive =>
        obtain rfl := Option.some.inj called
        have positive : 0 < number.toInt := Int32.lt_iff_toInt_lt.mp positive
        obtain ⟨sign, digits, written, signs, are, size⟩ :=
          (Decimal.integer?_positive positive).mp (Decimal.int32?_eq_some.mp read)
        obtain ⟨front, back, split, blank⟩ := Text.trimChars_eq (value.map Text.ofByte)
        rw [written, List.append_assoc] at split
        refine ⟨front, sign, digits, back, split, fun c member => ?_, signs, are, size, positive⟩
        refine (isBlank_iff (visible c ?_)).mp (blank c member)
        rw [split]
        simp only [List.mem_append] at member ⊢
        tauto
      next => cases called
    next => cases called
  · rintro ⟨front, sign, digits, back, written, padding, signs, are, size, positive⟩
    obtain ⟨shown, plain⟩ := signed_digits signs are
    have visible : ∀ c ∈ value.map Text.ofByte, IsVisible c := by
      intro c member
      rw [written] at member
      simp only [List.mem_append] at member
      by_cases pad : c ∈ front ++ back
      · rcases padding c pad with rfl | rfl
        · exact Or.inl (by decide)
        · exact Or.inr rfl
      · rw [List.mem_append] at pad
        exact (plain c (List.mem_append.mpr (by tauto))).1
    have blank : ∀ c ∈ front ++ back, Text.isBlank c := by
      intro c member
      rcases padding c member with rfl | rfl <;> decide
    have trimmed : Text.trimChars (value.map Text.ofByte) = sign ++ digits := by
      rw [written, ← List.append_assoc sign]
      exact Text.trimChars_of_blank shown blank
        (fun c member => (plain c (List.mem_of_mem_head? member)).2)
        fun c member => (plain c (List.mem_of_mem_getLast? member)).2
    have read : Decimal.int32? (sign ++ digits) = some user.number :=
      Decimal.int32?_eq_some.mpr ((Decimal.integer?_positive positive).mpr
        ⟨sign, digits, rfl, signs, are, size⟩)
    have number : 0 < user.number := Int32.lt_iff_toInt_lt.mpr positive
    rw [callerOf?, text?_eq_some.mpr ⟨rfl, visible⟩, Option.bind_some, trimmed, read]
    exact if_pos number

end Http

end ListKeeper
