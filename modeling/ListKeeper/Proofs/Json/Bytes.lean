import ListKeeper.Text.Bytes
import Mathlib

namespace ListKeeper.Text

theorem toNat_ofByte (byte : UInt8) : (ofByte byte).toNat = byte.toNat := by
  have small := byte.toNat_lt
  rw [ofByte, Char.toNat_ofNat, if_pos (Or.inl (by omega))]

theorem toByte_ofByte (byte : UInt8) : toByte (ofByte byte) = byte := by
  rw [toByte, toNat_ofByte, UInt8.ofNat_toNat]

/-- An ASCII character is a byte. -/
theorem utf8_of_ascii {c : Char} (ascii : c.toNat < 128) : utf8 c = [c] := by
  have small : c.val.toNat ≤ 127 := Nat.le_of_lt_succ ascii
  rw [utf8, String.utf8EncodeChar, if_pos small]
  rw [List.map_singleton, ofByte, UInt8.toNat_ofNat', Nat.mod_eq_of_lt (by omega)]
  exact congrArg ([·]) (Char.ofNat_toNat c)

/-- All bytes of another character lie beyond ASCII. -/
theorem le_of_mem_utf8 {c byte : Char} (beyond : 128 ≤ c.toNat) (member : byte ∈ utf8 c) :
    128 ≤ byte.toNat := by
  obtain ⟨number, among, rfl⟩ := List.mem_map.mp member
  rw [toNat_ofByte]
  have large : ¬c.val.toNat ≤ 127 := Nat.not_le_of_lt beyond
  rw [String.utf8EncodeChar, if_neg large] at among
  split_ifs at among
  all_goals
    simp only [List.mem_cons, List.not_mem_nil, or_false] at among
    rcases among with rfl | rfl | rfl | rfl
  all_goals
    rw [UInt8.toNat_ofNat']
    omega

@[simp]
theorem encode_nil : encode [] = [] :=
  rfl

theorem encode_cons (c : Char) (text : List Char) : encode (c :: text) = utf8 c ++ encode text :=
  rfl

theorem encode_append (first second : List Char) :
    encode (first ++ second) = encode first ++ encode second :=
  List.flatMap_append

theorem encode_ascii_cons {c : Char} (ascii : c.toNat < 128) (text : List Char) :
    encode (c :: text) = c :: encode text := by
  rw [encode_cons, utf8_of_ascii ascii, List.singleton_append]

theorem encode_of_ascii {text : List Char} (ascii : ∀ c ∈ text, c.toNat < 128) :
    encode text = text := by
  induction text with
  | nil => rfl
  | cons c rest ih =>
    rw [encode_ascii_cons (ascii c (List.mem_cons_self ..)),
      ih fun c member => ascii c (List.mem_cons_of_mem _ member)]

theorem length_le_encode (text : List Char) : text.length ≤ (encode text).length := by
  induction text with
  | nil => exact Nat.le_refl _
  | cons c rest ih =>
    have byte : 0 < (utf8 c).length := by
      rw [utf8, List.length_map]
      exact List.length_pos_iff.mpr String.utf8EncodeChar_ne_nil
    rw [encode_cons, List.length_append, List.length_cons]
    omega

theorem map_toByte_encode (text : List Char) :
    (encode text).map toByte = text.flatMap String.utf8EncodeChar := by
  rw [encode, List.map_flatMap]
  refine List.flatMap_congr fun c _ => ?_
  rw [utf8, List.map_map, Function.comp_def]
  simp only [toByte_ofByte, List.map_id']

theorem ofUtf8?_encode (text : List Char) : ofUtf8? (encode text) = some (String.ofList text) := by
  have bytes : (⟨((encode text).map toByte).toArray⟩ : ByteArray) =
      (String.ofList text).toByteArray := by
    rw [map_toByte_encode, String.toByteArray_ofList]
    exact ByteArray.ext (List.data_toByteArray).symm
  rw [ofUtf8?, bytes]
  exact dif_pos (String.ofList text).isValidUTF8

theorem map_ofByte_toUTF8 (text : List Char) :
    (String.ofList text).toUTF8.data.toList.map ofByte = encode text := by
  rw [String.toUTF8_eq_toByteArray, String.toByteArray_ofList, List.utf8Encode,
    List.data_toByteArray, List.map_flatMap]
  rfl

end ListKeeper.Text
