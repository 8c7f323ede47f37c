import Lifeline.Scalar
import Lifeline.Proofs.Text.Numeral
import Mathlib.Algebra.Order.Ring.Rat
import Mathlib.Data.List.DropRight
import Mathlib.Tactic.NormNum

/-!
# Canonical decimal texts

A count of units of the last decimal has one text: a minus sign in front of what is less than
zero, an integer without superfluous zeros in front, and the decimals that are left when
zeros at the end are dropped, without a point if there are none.  The text can be read back,
there is no other text of that kind for the same number, and the opposite count has the
opposite text.
-/

namespace Lifeline

namespace Decimal

theorem dropZeros_append_replicate (decimals : List Char) :
    ∃ count, dropZeros decimals ++ List.replicate count '0' = decimals := by
  refine ⟨(decimals.reverse.takeWhile (· == '0')).length, ?_⟩
  have zeros : decimals.reverse.takeWhile (· == '0') =
      List.replicate (decimals.reverse.takeWhile (· == '0')).length '0' :=
    List.eq_replicate_iff.mpr ⟨rfl, fun char member => by simpa using List.mem_takeWhile_imp member⟩
  rw [dropZeros, ← List.reverse_replicate, ← zeros, ← List.reverse_append,
    List.takeWhile_append_dropWhile, List.reverse_reverse]

theorem dropZeros_append_of_getLast?_ne {decimals : List Char}
    (significant : decimals.getLast? ≠ some '0') (count : Nat) :
    dropZeros (decimals ++ List.replicate count '0') = decimals := by
  have zeros : ∀ char ∈ List.replicate count '0', (char == '0') = true := by
    intro char member
    rw [List.eq_of_mem_replicate member]
    rfl
  rw [dropZeros, List.reverse_append, List.reverse_replicate, List.dropWhile_append_of_pos zeros]
  refine List.rdropWhile_eq_self_iff.mpr fun nonempty final => significant ?_
  rw [List.getLast?_eq_some_getLast nonempty, eq_of_beq final]

/-- Digits come back when the zeros are dropped that they were padded with. -/
theorem dropZeros_paddedDigits {decimals : List Char}
    (digits : ∀ char ∈ decimals, char.isDigit = true)
    (significant : decimals.getLast? ≠ some '0') (count : Nat) :
    dropZeros (Text.paddedDigits 10 (decimals.length + count)
      (10 ^ count * Nat.ofDigitChars 10 decimals 0)) = decimals := by
  have padded : ∀ char ∈ decimals ++ List.replicate count '0', char.isDigit = true := by
    intro char member
    rcases List.mem_append.mp member with inDecimals | inZeros
    · exact digits char inDecimals
    · rw [List.eq_of_mem_replicate inZeros]
      rfl
  have paddedEq := Text.eq_paddedDigits padded
  rw [List.length_append, List.length_replicate, Nat.ofDigitChars_append,
    Nat.ofDigitChars_replicate_zero] at paddedEq
  rw [← paddedEq]
  exact dropZeros_append_of_getLast?_ne significant count

theorem dropZeros_paddedDigits_zero (places : Nat) :
    dropZeros (Text.paddedDigits 10 places 0) = [] := by
  rw [Text.paddedDigits_zero]
  exact dropZeros_append_of_getLast?_ne (show [].getLast? ≠ some '0' by decide) places

/-- Zeros at the end of decimals say nothing. -/
theorem ofDigitChars_dropZeros (decimals : List Char) :
    (Nat.ofDigitChars 10 (dropZeros decimals) 0 : Rat) / 10 ^ (dropZeros decimals).length =
      Nat.ofDigitChars 10 decimals 0 / 10 ^ decimals.length := by
  obtain ⟨count, decimalsEq⟩ := dropZeros_append_replicate decimals
  have valueEq := congrArg (Nat.ofDigitChars 10 · 0) decimalsEq
  have lengthEq := congrArg List.length decimalsEq
  simp only [Nat.ofDigitChars_append, Nat.ofDigitChars_replicate_zero] at valueEq
  rw [List.length_append, List.length_replicate] at lengthEq
  rw [← valueEq, ← lengthEq, Nat.cast_mul, Nat.cast_pow, Nat.add_comm, pow_add]
  exact (mul_div_mul_left _ _ (pow_ne_zero count (by norm_num))).symm

/-- The parts of a decimal text. -/
structure Numeral where
  negative : Bool
  whole : List Char
  decimals : List Char

namespace Numeral

variable {numeral : Numeral}

def unsigned (numeral : Numeral) : List Char :=
  numeral.whole ++ if numeral.decimals = [] then [] else '.' :: numeral.decimals

def chars (numeral : Numeral) : List Char :=
  if numeral.negative then '-' :: numeral.unsigned else numeral.unsigned

/-- The number that the digits stand for. -/
def value (numeral : Numeral) : Rat :=
  let size : Rat := Nat.ofDigitChars 10 numeral.whole 0 +
    Nat.ofDigitChars 10 numeral.decimals 0 / 10 ^ numeral.decimals.length
  if numeral.negative then -size else size

/-- The parts of a text: a sign if it starts with one, then what stands before and after the
first point. -/
def read (text : List Char) : Numeral :=
  let size := if text.head? = some '-' then text.tail else text
  { negative := text.head? = some '-'
    whole := size.takeWhile (· ≠ '.')
    decimals := (size.dropWhile (· ≠ '.')).tail }

/-- Whether a number is written as it should be, with at most so many decimals. -/
structure Canonical (places : Nat) (numeral : Numeral) : Prop where
  whole_digits : ∀ char ∈ numeral.whole, char.isDigit = true
  whole_ne_nil : numeral.whole ≠ []
  no_leading_zero : numeral.whole.head? = some '0' → numeral.whole = ['0']
  decimal_digits : ∀ char ∈ numeral.decimals, char.isDigit = true
  short : numeral.decimals.length ≤ places
  no_final_zero : numeral.decimals.getLast? ≠ some '0'
  no_negative_zero : numeral.chars ≠ ['-', '0']

theorem head?_unsigned_ne (digits : ∀ char ∈ numeral.whole, char.isDigit = true)
    (nonempty : numeral.whole ≠ []) : numeral.unsigned.head? ≠ some '-' := by
  obtain ⟨first, rest, wholeEq⟩ := List.exists_cons_of_ne_nil nonempty
  rw [unsigned, wholeEq, List.cons_append, List.head?_cons]
  rintro ⟨⟩
  have minus := digits '-' (wholeEq ▸ List.mem_cons_self)
  exact absurd minus (by decide)

/-- The parts of a text that is put together from parts. -/
theorem read_chars (digits : ∀ char ∈ numeral.whole, char.isDigit = true)
    (nonempty : numeral.whole ≠ []) : read numeral.chars = numeral := by
  have plain : ∀ char ∈ numeral.whole, decide (char ≠ '.') = true := by
    intro char member
    refine decide_eq_true fun point => ?_
    exact absurd (digits char member) (by rw [point]; decide)
  have wholeEq : numeral.unsigned.takeWhile (· ≠ '.') = numeral.whole := by
    rw [unsigned, List.takeWhile_append_of_pos plain]
    split <;> simp
  have decimalsEq : (numeral.unsigned.dropWhile (· ≠ '.')).tail = numeral.decimals := by
    rw [unsigned, List.dropWhile_append_of_pos plain]
    split
    next none => rw [none]; rfl
    next => simp
  cases signEq : numeral.negative with
  | true =>
    rw [chars, signEq, if_pos rfl, read]
    simp only [List.head?_cons, List.tail_cons, if_true, decide_true, wholeEq, decimalsEq]
    rw [← signEq]
  | false =>
    rw [chars, signEq, if_neg (by decide), read]
    simp only [if_neg (head?_unsigned_ne digits nonempty), wholeEq, decimalsEq,
      decide_eq_false (head?_unsigned_ne digits nonempty)]
    rw [← signEq]

end Numeral

/-- The parts of the text of a count of units of the last decimal. -/
def numeralOf (places : Nat) (units : Int) : Numeral where
  negative := units < 0
  whole := Nat.toDigits 10 (units.natAbs / 10 ^ places)
  decimals := dropZeros (Text.paddedDigits 10 places (units.natAbs % 10 ^ places))

theorem ofUnits_eq (places : Nat) (units : Int) :
    ofUnits places units = (numeralOf places units).chars := by
  have pointedEq (decimals : List Char) :
      pointed decimals = if dropZeros decimals = [] then [] else '.' :: dropZeros decimals := by
    simp only [pointed, List.isEmpty_iff]
  rw [ofUnits, Numeral.chars, Numeral.unsigned, pointedEq]
  by_cases negative : units < 0
  · simp [numeralOf, negative]
  · simp [numeralOf, negative]

section Written

variable (places : Nat) (units : Int)

theorem whole_digits_numeralOf :
    ∀ char ∈ (numeralOf places units).whole, char.isDigit = true :=
  fun _ member => Nat.isDigit_of_mem_toDigits (by decide) (by decide) member

theorem decimals_prefix_numeralOf :
    (numeralOf places units).decimals <+:
      Text.paddedDigits 10 places (units.natAbs % 10 ^ places) :=
  List.rdropWhile_prefix _ _

theorem read_ofUnits : Numeral.read (ofUnits places units) = numeralOf places units := by
  rw [ofUnits_eq]
  exact Numeral.read_chars (whole_digits_numeralOf places units) Nat.toDigits_ne_nil

theorem value_numeralOf : (numeralOf places units).value = units / 10 ^ places := by
  have powPositive : (10 : Rat) ^ places ≠ 0 := pow_ne_zero places (by norm_num)
  have size : (Nat.ofDigitChars 10 (numeralOf places units).whole 0 : Rat) +
      Nat.ofDigitChars 10 (numeralOf places units).decimals 0 /
        10 ^ (numeralOf places units).decimals.length = units.natAbs / 10 ^ places := by
    rw [numeralOf, Nat.ofDigitChars_ten_toDigits, ofDigitChars_dropZeros,
      Text.ofDigitChars_paddedDigits, Nat.mod_mod, Text.length_paddedDigits, eq_div_iff powPositive,
      add_mul, div_mul_cancel₀ _ powPositive]
    exact_mod_cast Nat.div_add_mod' units.natAbs (10 ^ places)
  rw [Numeral.value]
  simp only [size]
  by_cases negative : units < 0
  · rw [if_pos (by simpa [numeralOf] using negative), Nat.cast_natAbs, abs_of_neg negative,
      Int.cast_neg, neg_div, neg_neg]
  · rw [if_neg (by simpa [numeralOf] using negative), Nat.cast_natAbs,
      abs_of_nonneg (not_lt.mp negative)]

theorem value_numeralOf_injective :
    Function.Injective fun units => (numeralOf places units).value := by
  intro first second same
  simp only [value_numeralOf] at same
  rw [div_left_inj' (pow_ne_zero places (by norm_num : (10 : Rat) ≠ 0))] at same
  exact Int.cast_injective same

theorem ofUnits_injective : Function.Injective (ofUnits places) := by
  intro first second same
  have numeralEq : numeralOf places first = numeralOf places second := by
    rw [← read_ofUnits, same, read_ofUnits]
  exact value_numeralOf_injective places (congrArg Numeral.value numeralEq)

theorem ofUnits_zero : ofUnits places 0 = ['0'] := by
  rw [ofUnits_eq, Numeral.chars, Numeral.unsigned, numeralOf]
  simp [dropZeros_paddedDigits_zero, Nat.toDigits_zero]

end Written

section Signs

variable {places : Nat} {units : Int}

theorem ofUnits_of_neg (negative : units < 0) :
    ofUnits places units = '-' :: ofUnits places (-units) := by
  rw [ofUnits, ofUnits, if_pos negative, if_neg (by omega), Int.natAbs_neg]
  rfl

theorem head?_ofUnits_of_nonneg (nonneg : 0 ≤ units) :
    (ofUnits places units).head? ≠ some '-' := by
  have unsigned : (numeralOf places units).negative = false := decide_eq_false (not_lt.mpr nonneg)
  rw [ofUnits_eq, Numeral.chars, unsigned, if_neg (by decide)]
  exact Numeral.head?_unsigned_ne (whole_digits_numeralOf places units) Nat.toDigits_ne_nil

theorem ofUnits_eq_zero_iff : ofUnits places units = ['0'] ↔ units = 0 := by
  rw [← ofUnits_zero places]
  exact (ofUnits_injective places).eq_iff

theorem ofUnits_ne_negative_zero : ofUnits places units ≠ ['-', '0'] := by
  intro minusZero
  rcases lt_or_ge units 0 with negative | nonneg
  · rw [ofUnits_of_neg negative] at minusZero
    have zero := ofUnits_eq_zero_iff.mp (List.tail_eq_of_cons_eq minusZero)
    omega
  · have plain := minusZero ▸ head?_ofUnits_of_nonneg nonneg
    exact plain rfl

/-- The text with the other sign. -/
def opposite (text : List Char) : List Char :=
  if text = ['0'] then text
  else if text.head? = some '-' then text.tail
  else '-' :: text

theorem ofUnits_neg (places : Nat) (units : Int) :
    ofUnits places (-units) = opposite (ofUnits places units) := by
  rcases lt_trichotomy units 0 with negative | rfl | positive
  · rw [ofUnits_of_neg negative, opposite, if_neg (by simp), List.head?_cons, if_pos rfl,
      List.tail_cons]
  · rw [neg_zero, ofUnits_zero]
    rfl
  · rw [opposite, if_neg (mt ofUnits_eq_zero_iff.mp positive.ne'),
      if_neg (head?_ofUnits_of_nonneg positive.le), ofUnits_of_neg (by omega), neg_neg]

end Signs

theorem canonical_numeralOf (places : Nat) (units : Int) :
    (numeralOf places units).Canonical places where
  whole_digits := whole_digits_numeralOf places units
  whole_ne_nil := Nat.toDigits_ne_nil
  no_leading_zero leading := by
    rw [numeralOf] at leading ⊢
    simp only at leading ⊢
    rw [Text.eq_zero_of_head?_toDigits leading, Nat.toDigits_zero]
  decimal_digits _ member :=
    Text.isDigit_of_mem_paddedDigits ((decimals_prefix_numeralOf places units).subset member)
  short := (decimals_prefix_numeralOf places units).length_le.trans_eq
    (Text.length_paddedDigits 10 places _)
  no_final_zero final := by
    obtain ⟨nonempty, finalEq⟩ := List.mem_getLast?_eq_getLast (Option.mem_def.mpr final)
    exact List.rdropWhile_last_not _ _ nonempty (finalEq ▸ rfl)
  no_negative_zero := ofUnits_eq places units ▸ ofUnits_ne_negative_zero

/-- Canonical digits are those of some count of units of the last decimal. -/
theorem Numeral.Canonical.exists_size {places : Nat} {numeral : Numeral}
    (canonical : numeral.Canonical places) :
    ∃ size : Nat, Nat.toDigits 10 (size / 10 ^ places) = numeral.whole ∧
      dropZeros (Text.paddedDigits 10 places (size % 10 ^ places)) = numeral.decimals := by
  obtain ⟨missing, placesEq⟩ := Nat.exists_eq_add_of_le canonical.short
  have positive : 0 < 10 ^ places := Nat.pow_pos (by decide)
  have restSmall : 10 ^ missing * Nat.ofDigitChars 10 numeral.decimals 0 < 10 ^ places := by
    rw [placesEq, Nat.add_comm, pow_add]
    exact Nat.mul_lt_mul_of_pos_left (Text.ofDigitChars_lt canonical.decimal_digits)
      (Nat.pow_pos (by decide))
  refine ⟨10 ^ places * Nat.ofDigitChars 10 numeral.whole 0 +
    10 ^ missing * Nat.ofDigitChars 10 numeral.decimals 0, ?_, ?_⟩
  · rw [Nat.mul_add_div positive, Nat.div_eq_of_lt restSmall, Nat.add_zero]
    exact (Text.eq_toDigits canonical.whole_digits canonical.whole_ne_nil
      canonical.no_leading_zero).symm
  · rw [Nat.mul_add_mod, Nat.mod_eq_of_lt restSmall, placesEq]
    exact dropZeros_paddedDigits canonical.decimal_digits canonical.no_final_zero missing

/-- The canonical numerals are those of the counts of units of the last decimal. -/
theorem canonical_iff {places : Nat} {numeral : Numeral} :
    numeral.Canonical places ↔ ∃ units, numeralOf places units = numeral := by
  constructor
  · intro canonical
    obtain ⟨size, wholeEq, decimalsEq⟩ := canonical.exists_size
    obtain ⟨negative, whole, decimals⟩ := numeral
    cases negative with
    | false =>
      refine ⟨size, ?_⟩
      rw [numeralOf, Int.natAbs_natCast, wholeEq, decimalsEq,
        decide_eq_false (not_lt.mpr size.cast_nonneg)]
    | true =>
      have positive : size ≠ 0 := by
        rintro rfl
        rw [Nat.zero_div, Nat.toDigits_zero] at wholeEq
        rw [Nat.zero_mod, dropZeros_paddedDigits_zero] at decimalsEq
        obtain rfl : ['0'] = whole := wholeEq
        obtain rfl : [] = decimals := decimalsEq
        exact canonical.no_negative_zero rfl
      refine ⟨-size, ?_⟩
      rw [numeralOf, Int.natAbs_neg, Int.natAbs_natCast, wholeEq, decimalsEq,
        decide_eq_true (by omega)]
  · rintro ⟨units, rfl⟩
    exact canonical_numeralOf places units

/-- Canonical numerals that stand for one number are one numeral. -/
theorem Numeral.Canonical.eq_of_value_eq {places : Nat} {first second : Numeral}
    (canonical : first.Canonical places) (otherCanonical : second.Canonical places)
    (same : first.value = second.value) : first = second := by
  obtain ⟨units, rfl⟩ := canonical_iff.mp canonical
  obtain ⟨otherUnits, rfl⟩ := canonical_iff.mp otherCanonical
  rw [value_numeralOf_injective places same]

/-- Whether a text is made up of canonical digits. -/
def IsCanonical (places : Nat) (text : List Char) : Prop :=
  (Numeral.read text).chars = text ∧ (Numeral.read text).Canonical places

theorem IsCanonical.eq_of_value_eq {places : Nat} {text other : List Char}
    (canonical : IsCanonical places text) (otherCanonical : IsCanonical places other)
    (same : (Numeral.read other).value = (Numeral.read text).value) : other = text := by
  rw [← otherCanonical.1, otherCanonical.2.eq_of_value_eq canonical.2 same, canonical.1]

theorem isCanonical_ofUnits (places : Nat) (units : Int) :
    IsCanonical places (ofUnits places units) := by
  rw [IsCanonical, read_ofUnits]
  exact ⟨(ofUnits_eq places units).symm, canonical_numeralOf places units⟩

end Decimal

end Lifeline
