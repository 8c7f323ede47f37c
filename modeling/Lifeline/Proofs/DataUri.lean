import Lifeline.Svg
import Mathlib.Data.List.Basic
import Mathlib.Tactic.IntervalCases

/-!
# Data URIs lose nothing

A text is percent-encoded byte by byte: a byte that is a letter, a digit or one of a few
marks stands for itself, and every other byte is a percent sign with two hexadecimal
digits.  Decoding takes the bytes back, and they are the UTF-8 encoding of the text.

So the URI of a drawing holds nothing that a URI may not hold, and the drawing can be read
back from it.
-/

namespace Lifeline

namespace Text

/-- Characters that may stand for themselves in a URI. -/
def IsPlain (char : Char) : Prop :=
  ('A' ≤ char ∧ char ≤ 'Z') ∨ ('a' ≤ char ∧ char ≤ 'z') ∨ ('0' ≤ char ∧ char ≤ '9') ∨
    char ∈ ['-', '_', '.', '!', '~', '*', '\'', '(', ')']

/-- Whether a character is a hexadecimal digit in upper case. -/
def IsHexDigit (char : Char) : Prop :=
  ('0' ≤ char ∧ char ≤ '9') ∨ ('A' ≤ char ∧ char ≤ 'F')

/-- Texts of plain characters and escaped bytes. -/
inductive Escaped : List Char → Prop
  | nil : Escaped []
  | plain {char : Char} {rest : List Char} :
      IsPlain char → Escaped rest → Escaped (char :: rest)
  | byte {high low : Char} {rest : List Char} :
      IsHexDigit high → IsHexDigit low → Escaped rest → Escaped ('%' :: high :: low :: rest)

/-- The value of a hexadecimal digit in either case. -/
def hexValue? (char : Char) : Option Nat :=
  if '0' ≤ char ∧ char ≤ '9' then some (char.toNat - 0x30)
  else if 'A' ≤ char ∧ char ≤ 'F' then some (char.toNat - 0x37)
  else if 'a' ≤ char ∧ char ≤ 'f' then some (char.toNat - 0x57)
  else none

/-- The bytes that a percent-encoded text stands for. -/
def percentDecode? : List Char → Option (List UInt8)
  | [] => some []
  | '%' :: high :: low :: rest => do
      let first ← hexValue? high
      let second ← hexValue? low
      let others ← percentDecode? rest
      pure (UInt8.ofNat (16 * first + second) :: others)
  | char :: rest =>
      if char = '%' then none
      else (percentDecode? rest).map (String.utf8EncodeChar char ++ ·)

/-- The text whose UTF-8 encoding is given, if they are that of a text. -/
def ofUtf8? (bytes : List UInt8) : Option String :=
  String.fromUTF8? bytes.toByteArray

/-- How one byte of a text is written. -/
def escapedByte (byte : UInt8) : List Char :=
  if isUnreserved (Char.ofUInt8 byte) then [Char.ofUInt8 byte] else percentByte byte

theorem isUnreserved_iff (char : Char) : isUnreserved char = true ↔ IsPlain char := by
  have between (first last : Char) :
      (decide (first ≤ char) && decide (char ≤ last)) = true ↔ first ≤ char ∧ char ≤ last := by
    rw [Bool.and_eq_true, decide_eq_true_eq, decide_eq_true_eq]
  have upper : char.isUpper = true ↔ 'A' ≤ char ∧ char ≤ 'Z' := decide_eq_true_iff
  have lower : char.isLower = true ↔ 'a' ≤ char ∧ char ≤ 'z' := between 'a' 'z'
  have digit : char.isDigit = true ↔ '0' ≤ char ∧ char ≤ '9' := between '0' '9'
  have alphanumEq : char.isAlphanum = (char.isUpper || char.isLower || char.isDigit) := rfl
  rw [isUnreserved, alphanumEq, Bool.or_eq_true, Bool.or_eq_true, Bool.or_eq_true, upper, lower,
    digit, List.contains_iff_mem, IsPlain, or_assoc, or_assoc]

theorem toNat_lt_of_isPlain {char : Char} (plain : IsPlain char) : char.toNat < 0x80 := by
  rcases plain with ⟨-, upper⟩ | ⟨-, upper⟩ | ⟨-, upper⟩ | member
  · exact Nat.lt_of_le_of_lt upper (by decide)
  · exact Nat.lt_of_le_of_lt upper (by decide)
  · exact Nat.lt_of_le_of_lt upper (by decide)
  · have small : ['-', '_', '.', '!', '~', '*', '\'', '(', ')'].all (·.toNat < 0x80) = true := by
      decide
    exact of_decide_eq_true (List.all_eq_true.mp small char member)

theorem isUnreserved_eq_false {char : Char} (beyond : 0x80 ≤ char.toNat) :
    isUnreserved char = false := by
  rw [← Bool.not_eq_true, isUnreserved_iff]
  intro plain
  have small := toNat_lt_of_isPlain plain
  omega

theorem utf8EncodeChar_of_lt {char : Char} (ascii : char.toNat < 0x80) :
    String.utf8EncodeChar char = [UInt8.ofNat char.toNat] :=
  if_pos (show char.toNat ≤ 0x7F by omega)

/-- All bytes of a character beyond ASCII are beyond ASCII too. -/
theorem le_of_mem_utf8EncodeChar {char : Char} (beyond : 0x80 ≤ char.toNat) {byte : UInt8}
    (member : byte ∈ String.utf8EncodeChar char) : 0x80 ≤ byte.toNat := by
  have large : ¬ char.val.toNat ≤ 0x7F := by
    rw [← Char.toNat]
    omega
  -- The lead byte is at least 0xC0 and each of the others at least 0x80.
  simp only [String.utf8EncodeChar, if_neg large] at member
  split at member
  · simp only [List.mem_cons, List.not_mem_nil, or_false] at member
    rcases member with rfl | rfl <;> rw [UInt8.toNat_ofNat'] <;> omega
  · split at member
    · simp only [List.mem_cons, List.not_mem_nil, or_false] at member
      rcases member with rfl | rfl | rfl <;> rw [UInt8.toNat_ofNat'] <;> omega
    · simp only [List.mem_cons, List.not_mem_nil, or_false] at member
      rcases member with rfl | rfl | rfl | rfl <;> rw [UInt8.toNat_ofNat'] <;> omega

theorem toNat_ofUInt8 (byte : UInt8) : (Char.ofUInt8 byte).toNat = byte.toNat :=
  UInt8.toNat_toUInt32 byte

theorem ofUInt8_ofNat_toNat {char : Char} (ascii : char.toNat < 0x80) :
    Char.ofUInt8 (UInt8.ofNat char.toNat) = char := by
  apply Char.toNat_inj.mp
  rw [toNat_ofUInt8, UInt8.toNat_ofNat']
  omega

/-- A character is written as its bytes are, one after the other. -/
theorem percentChar_eq (char : Char) :
    percentChar char = (String.utf8EncodeChar char).flatMap escapedByte := by
  rcases Nat.lt_or_ge char.toNat 0x80 with ascii | beyond
  · rw [percentChar, utf8EncodeChar_of_lt ascii, List.flatMap_singleton, List.flatMap_singleton,
      escapedByte, ofUInt8_ofNat_toNat ascii]
  · rw [percentChar, isUnreserved_eq_false beyond, if_neg Bool.false_ne_true]
    apply List.flatMap_congr
    intro byte member
    have byteBeyond := le_of_mem_utf8EncodeChar beyond member
    rw [escapedByte, isUnreserved_eq_false (by rwa [toNat_ofUInt8]),
      if_neg Bool.false_ne_true]

/-- Percent-encoding works on the bytes of the UTF-8 encoding. -/
theorem percentEncode_eq (text : String) :
    percentEncode text =
      String.ofList ((text.toList.flatMap String.utf8EncodeChar).flatMap escapedByte) := by
  rw [percentEncode, List.flatMap_assoc]
  exact congrArg String.ofList (List.flatMap_congr fun char _ => percentChar_eq char)

theorem ofUtf8?_utf8EncodeChar (text : String) :
    ofUtf8? (text.toList.flatMap String.utf8EncodeChar) = some text := by
  have bytesEq : (text.toList.flatMap String.utf8EncodeChar).toByteArray = text.toByteArray :=
    String.utf8Encode_toList
  rw [ofUtf8?, bytesEq, String.fromUTF8?, dif_pos text.isValidUTF8]
  rfl

theorem hexValue?_toUpper {digit : Nat} (small : digit < 16) :
    hexValue? (Nat.digitChar digit).toUpper = some digit := by
  interval_cases digit <;> rfl

theorem isHexDigit_toUpper {digit : Nat} (small : digit < 16) :
    IsHexDigit (Nat.digitChar digit).toUpper := by
  unfold IsHexDigit
  interval_cases digit <;> decide

theorem percentDecode?_cons {char : Char} (unmarked : char ≠ '%') (rest : List Char) :
    percentDecode? (char :: rest) =
      (percentDecode? rest).map (String.utf8EncodeChar char ++ ·) := by
  rw [percentDecode?, if_neg unmarked]
  intro high low others charEq
  exact absurd charEq unmarked

theorem percentDecode?_percentByte (byte : UInt8) (rest : List Char) :
    percentDecode? (percentByte byte ++ rest) = (percentDecode? rest).map (byte :: ·) := by
  have small := byte.toNat_lt
  have high : byte.toNat / 16 < 16 := by omega
  have low : byte.toNat % 16 < 16 := by omega
  have byteEq : UInt8.ofNat (16 * (byte.toNat / 16) + byte.toNat % 16) = byte := by
    rw [Nat.div_add_mod, UInt8.ofNat_toNat]
  rw [percentByte, List.cons_append, List.cons_append, List.cons_append, List.nil_append,
    percentDecode?, hexValue?_toUpper high, hexValue?_toUpper low]
  simp only [Option.bind_eq_bind, Option.bind_some, byteEq]
  exact Option.map_eq_bind.symm

theorem percentDecode?_escapedByte (byte : UInt8) (rest : List Char) :
    percentDecode? (escapedByte byte ++ rest) = (percentDecode? rest).map (byte :: ·) := by
  rw [escapedByte]
  split
  next plain =>
    have ascii := toNat_lt_of_isPlain ((isUnreserved_iff _).mp plain)
    have unmarked : Char.ofUInt8 byte ≠ '%' := by
      intro same
      rw [same] at plain
      exact absurd plain (by decide)
    rw [List.singleton_append, percentDecode?_cons unmarked, utf8EncodeChar_of_lt ascii,
      toNat_ofUInt8, UInt8.ofNat_toNat]
    rfl
  next => exact percentDecode?_percentByte byte rest

theorem percentDecode?_flatMap (bytes : List UInt8) :
    percentDecode? (bytes.flatMap escapedByte) = some bytes := by
  induction bytes with
  | nil => rfl
  | cons byte rest ih => rw [List.flatMap_cons, percentDecode?_escapedByte, ih, Option.map_some]

theorem escaped_flatMap (bytes : List UInt8) : Escaped (bytes.flatMap escapedByte) := by
  induction bytes with
  | nil => exact .nil
  | cons byte rest ih =>
      have small := byte.toNat_lt
      rw [List.flatMap_cons, escapedByte]
      split
      next plain => exact .plain ((isUnreserved_iff _).mp plain) ih
      next => exact .byte (isHexDigit_toUpper (by omega)) (isHexDigit_toUpper (by omega)) ih

/-- What is percent-encoded is safe in a URI and can be read back. -/
theorem percentEncode_lossless (text : String) :
    ∃ data : List Char, percentEncode text = String.ofList data ∧ Escaped data ∧
      (percentDecode? data).bind ofUtf8? = some text := by
  refine ⟨_, percentEncode_eq text, escaped_flatMap _, ?_⟩
  rw [percentDecode?_flatMap, Option.bind_some, ofUtf8?_utf8EncodeChar]

end Text

namespace Script

variable {α : Type} [Scalar α]

/-- The URI of a drawing is made of characters that a URI may hold, and the drawing is what
can be read back from it. -/
theorem svgUri_lossless (theme : Svg.Theme) (measure : Measurer α) (text : String) :
    ∃ data : List Char,
      svgUri theme measure text = "data:image/svg+xml," ++ String.ofList data ∧
        Text.Escaped data ∧
        (Text.percentDecode? data).bind Text.ofUtf8? = some (svg theme measure text) := by
  obtain ⟨data, dataEq, safe, readBack⟩ := Text.percentEncode_lossless (svg theme measure text)
  exact ⟨data, congrArg ("data:image/svg+xml," ++ ·) dataEq, safe, readBack⟩

end Script

end Lifeline
