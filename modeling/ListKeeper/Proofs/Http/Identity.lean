import ListKeeper.Proofs.Http.Caller

namespace ListKeeper.Http

/-- The number that the bytes of decimal digits stand for. -/
def numberOf (digits : List UInt8) : Nat :=
  digits.foldl (fun number digit => 10 * number + (digit.toNat - 48)) 0

/-- The byte of a decimal digit. -/
def IsDigit (byte : UInt8) : Prop :=
  48 ≤ byte ∧ byte ≤ 57

instance (byte : UInt8) : Decidable (IsDigit byte) :=
  inferInstanceAs (Decidable (_ ∧ _))

/-- The byte of a space or of a tab. -/
def IsPadding (byte : UInt8) : Prop :=
  byte = 32 ∨ byte = 9

instance (byte : UInt8) : Decidable (IsPadding byte) :=
  inferInstanceAs (Decidable (_ ∨ _))

/-- The value is a number of any size in decimal digits, with a plus sign or none in front of them
and with padding around it. -/
inductive Writes : HeaderValue → Nat → Prop where
  | intro (front sign digits back : List UInt8) (padding : ∀ byte ∈ front ++ back, IsPadding byte)
      (signs : sign = [] ∨ sign = [43]) (shown : digits ≠ [])
      (decimal : ∀ byte ∈ digits, IsDigit byte) :
    Writes (front ++ (sign ++ (digits ++ back))) (numberOf digits)

variable {value : HeaderValue} {n m : Nat}

/-- The digits of a value are the bytes of it that are digits. -/
theorem Writes.eq_numberOf (writes : Writes value n) :
    n = numberOf (value.filter fun byte => IsDigit byte) := by
  obtain ⟨front, sign, digits, back, padding, signs, _, decimal⟩ := writes
  have none (bytes : List UInt8) (padding : ∀ byte ∈ bytes, IsPadding byte) :
      bytes.filter (fun byte => IsDigit byte) = [] := by
    refine List.filter_eq_nil_iff.mpr fun byte member => ?_
    rcases padding byte member with rfl | rfl <;> decide
  have unsigned : sign.filter (fun byte => IsDigit byte) = [] := by
    rcases signs with rfl | rfl <;> decide
  have all : digits.filter (fun byte => IsDigit byte) = digits :=
    List.filter_eq_self.mpr fun byte member => decide_eq_true (decimal byte member)
  rw [List.forall_mem_append] at padding
  rw [List.filter_append, List.filter_append, List.filter_append, none front padding.1, unsigned,
    all, none back padding.2, List.append_nil, List.nil_append, List.nil_append]

theorem not_isPadding {byte : UInt8} (signed : byte = 43 ∨ IsDigit byte) : ¬IsPadding byte := by
  rintro (rfl | rfl) <;> exact absurd signed (by decide)

/-- No value writes two numbers. -/
theorem Writes.unique (writes : Writes value n) (other : Writes value m) : n = m :=
  writes.eq_numberOf.trans other.eq_numberOf.symm

theorem mem_signed {sign digits : List UInt8} (signs : sign = [] ∨ sign = [43])
    (decimal : ∀ byte ∈ digits, IsDigit byte) {byte : UInt8} (member : byte ∈ sign ++ digits) :
    byte = 43 ∨ IsDigit byte := by
  rcases List.mem_append.mp member with plus | digit
  · rcases signs with rfl | rfl
    · cases plus
    · exact Or.inl (List.mem_singleton.mp plus)
  · exact Or.inr (decimal byte digit)

/-- No number is written with a minus sign or beyond ASCII. -/
theorem Writes.plain (writes : Writes value n) {byte : UInt8} (member : byte ∈ value) :
    IsPadding byte ∨ byte = 43 ∨ IsDigit byte := by
  obtain ⟨front, sign, digits, back, padding, signs, _, decimal⟩ := writes
  rw [List.forall_mem_append] at padding
  rw [← List.append_assoc sign] at member
  rcases List.mem_append.mp member with before | later
  · exact Or.inl (padding.1 byte before)
  · rcases List.mem_append.mp later with signed | behind
    · exact Or.inr (mem_signed signs decimal signed)
    · exact Or.inl (padding.2 byte behind)

/-- There is nothing but padding in front of a padding byte, or nothing but padding behind it. -/
theorem Writes.unbroken {first second : List UInt8} {gap : UInt8}
    (writes : Writes (first ++ gap :: second) n) (blank : IsPadding gap) :
    (∀ byte ∈ first, IsPadding byte) ∨ ∀ byte ∈ second, IsPadding byte := by
  generalize broken : first ++ gap :: second = value at writes
  obtain ⟨front, sign, digits, back, padding, signs, _, decimal⟩ := writes
  rw [List.forall_mem_append] at padding
  rw [← List.append_assoc sign] at broken
  -- The byte is in the padding in front, or behind all of that: it is no sign and no digit.
  rcases List.append_eq_append_iff.mp broken with ⟨more, rfl, _⟩ | ⟨more, _, later⟩
  · exact Or.inl (List.forall_mem_append.mp padding.1).1
  · right
    rcases List.append_eq_append_iff.mp later with ⟨rest, _, rfl⟩ | ⟨rest, signed, behind⟩
    · exact fun byte member => padding.2 byte (by simp [member])
    · cases rest with
      | nil =>
        have ends : gap :: second = back := behind
        exact fun byte member => padding.2 byte (ends ▸ List.mem_cons_of_mem gap member)
      | cons head tail =>
        obtain rfl : gap = head := (List.cons.inj behind).1
        have inside : gap ∈ sign ++ digits := signed ▸ by simp
        exact absurd blank (not_isPadding (mem_signed signs decimal inside))

theorem ofByte_eq_iff {byte : UInt8} {c : Char} : Text.ofByte byte = c ↔ byte.toNat = c.toNat := by
  rw [← Char.toNat_inj, Text.toNat_ofByte]

theorem isDigit_ofByte {byte : UInt8} : (Text.ofByte byte).isDigit ↔ IsDigit byte := by
  rw [Char.isDigit_iff_toNat, Text.toNat_ofByte]
  rfl

theorem isPadding_ofByte {byte : UInt8} :
    Text.ofByte byte = ' ' ∨ Text.ofByte byte = '\t' ↔ IsPadding byte := by
  rw [ofByte_eq_iff, ofByte_eq_iff, IsPadding, ← UInt8.toNat_inj, ← UInt8.toNat_inj]
  rfl

theorem isPlus_ofByte {sign : List UInt8} :
    sign.map Text.ofByte = [] ∨ sign.map Text.ofByte = ['+'] ↔ sign = [] ∨ sign = [43] := by
  have plus (byte : UInt8) : Text.ofByte byte = '+' ↔ byte = 43 := by
    rw [ofByte_eq_iff, ← UInt8.toNat_inj]
    rfl
  simp [List.map_eq_singleton_iff, plus]

theorem ofDigitChars_ofByte (digits : List UInt8) :
    Nat.ofDigitChars 10 (digits.map Text.ofByte) 0 = numberOf digits := by
  rw [Nat.ofDigitChars_eq_foldl, List.foldl_map, numberOf]
  simp only [Text.toNat_ofByte]
  rfl

theorem namesUser_iff {user : UserId} :
    NamesUser value user ↔ ∃ n : Nat, Writes value n ∧ 1 ≤ n ∧ user.number.toInt = n := by
  constructor
  · rintro ⟨_, _, _, _, written, padding, signs, ⟨shown, decimal⟩, size, positive⟩
    obtain ⟨front, signed, rfl, rfl, behind⟩ := List.map_eq_append_iff.mp written
    obtain ⟨sign, unsigned, rfl, rfl, last⟩ := List.map_eq_append_iff.mp behind
    obtain ⟨digits, back, rfl, rfl, rfl⟩ := List.map_eq_append_iff.mp last
    rw [ofDigitChars_ofByte] at size
    rw [← List.map_append, List.forall_mem_map] at padding
    rw [List.forall_mem_map] at decimal
    refine ⟨_, .intro front sign digits back ?_ (isPlus_ofByte.mp signs) ?_ ?_, by omega, size⟩
    · exact fun byte member => isPadding_ofByte.mp (padding byte member)
    · exact fun none => shown (none ▸ rfl)
    · exact fun byte member => isDigit_ofByte.mp (decimal byte member)
  · rintro ⟨_, ⟨front, sign, digits, back, padding, signs, shown, decimal⟩, positive, size⟩
    refine ⟨front.map Text.ofByte, sign.map Text.ofByte, digits.map Text.ofByte,
      back.map Text.ofByte, ?_, ?_, isPlus_ofByte.mpr signs, ⟨?_, ?_⟩, ?_, by omega⟩
    · simp only [List.map_append]
    · rw [← List.map_append, List.forall_mem_map]
      exact fun byte member => isPadding_ofByte.mpr (padding byte member)
    · exact fun none => shown (List.map_eq_nil_iff.mp none)
    · rw [List.forall_mem_map]
      exact fun byte member => isDigit_ofByte.mpr (decimal byte member)
    · rw [ofDigitChars_ofByte, size]

/-- A request with this header value is refused for want of a caller. -/
def Refuses (value : HeaderValue) : Prop :=
  identify (some value) = .error (.unauthorized "invalid X-User-Id header")

/-- A header value names a caller, or the request is refused. -/
theorem identify_cases (value : HeaderValue) :
    (∃ user, identify (some value) = .ok user) ∨ Refuses value := by
  cases called : callerOf? value with
  | some user => exact Or.inl ⟨user, by simp only [identify, called]⟩
  | none => exact Or.inr (by simp only [Refuses, identify, called])

theorem identify_eq_ok {user : UserId} :
    identify (some value) = .ok user ↔ NamesUser value user := by
  rw [← callerOf?_eq_some]
  cases called : callerOf? value <;> simp [identify, called]

theorem identify_iff_writes {user : UserId} :
    identify (some value) = .ok user ↔
      ∃ n : Nat, Writes value n ∧ 1 ≤ n ∧ n ≤ 2147483647 ∧ user.number.toInt = n := by
  have high := Int32.toInt_lt user.number
  rw [identify_eq_ok, namesUser_iff]
  refine exists_congr fun n => and_congr_right fun _ => and_congr_right fun _ => ?_
  constructor
  · exact fun same => ⟨by omega, same⟩
  · exact And.right

theorem refuses_of_not_writes (none : ∀ n, Writes value n → n = 0 ∨ 2147483647 < n) :
    Refuses value := by
  refine (identify_cases value).resolve_left ?_
  rintro ⟨user, called⟩
  obtain ⟨n, writes, low, high, _⟩ := identify_iff_writes.mp called
  rcases none n writes with zero | large
  · omega
  · omega

/-- The caller of a request is a user just if the header value writes the user's number, which is
positive and below the bound of 32 bits with a sign. Any other value is refused: a number above that
bound, however long it is and whatever its last digits are, and a value with a minus sign, with a
byte beyond ASCII, or with a space or tab between other bytes. -/
theorem identifies_just_written (value : HeaderValue) :
    (∀ user, identify (some value) = .ok user ↔
      ∃ n : Nat, Writes value n ∧ 1 ≤ n ∧ n ≤ 2147483647 ∧ user.number.toInt = n) ∧
    ((¬∃ n, Writes value n ∧ 1 ≤ n ∧ n ≤ 2147483647) → Refuses value) ∧
    (∀ n, Writes value n → 2147483647 < n → Refuses value) ∧
    ((∃ byte ∈ value, byte = 45 ∨ 128 ≤ byte) → Refuses value) ∧
    ∀ first gap second, value = first ++ gap :: second → IsPadding gap →
      (∃ byte ∈ first, ¬IsPadding byte) → (∃ byte ∈ second, ¬IsPadding byte) → Refuses value := by
  refine ⟨fun user => identify_iff_writes, fun none => ?_, fun n writes large => ?_, ?_, ?_⟩
  · refine refuses_of_not_writes fun n writes => ?_
    by_contra inside
    exact none ⟨n, writes, by omega, by omega⟩
  · exact refuses_of_not_writes fun m other => Or.inr (other.unique writes ▸ large)
  · rintro ⟨byte, member, stray⟩
    refine refuses_of_not_writes fun n writes => absurd (writes.plain member) ?_
    rintro ((rfl | rfl) | rfl | ⟨low, top⟩)
    · exact absurd stray (by decide)
    · exact absurd stray (by decide)
    · exact absurd stray (by decide)
    · rcases stray with rfl | beyond
      · exact absurd low (by decide)
      · exact absurd (UInt8.le_trans beyond top) (by decide)
  · rintro first gap second rfl blank ⟨before, inFirst, some⟩ ⟨behind, inSecond, other⟩
    refine refuses_of_not_writes fun n writes => ?_
    rcases writes.unbroken blank with all | all
    · exact absurd (all before inFirst) some
    · exact absurd (all behind inSecond) other

/-- The value is read as 42 + 2 ^ 32, which has the low bits of user 42 and is not taken for it. -/
theorem identifies_just_written_long :
    let digits : List UInt8 := [48, 52, 50, 57, 52, 57, 54, 55, 51, 51, 56]
    let value : HeaderValue := [32] ++ ([43] ++ (digits ++ [9]))
    Writes value 4294967338 ∧ Refuses value := by
  intro digits value
  have number : numberOf digits = 4294967338 := by decide
  have writes : Writes value (numberOf digits) :=
    .intro [32] [43] digits [9] (by simp [IsPadding]) (Or.inr rfl) (by decide)
      (by simp [digits, IsDigit])
  rw [number] at writes
  exact ⟨writes, (identifies_just_written value).2.2.1 _ writes (by decide)⟩

end ListKeeper.Http
