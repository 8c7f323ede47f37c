import Lifeline.Text.Numeral
import Mathlib.Algebra.Group.Nat.Hom
import Mathlib.Data.List.Induction

/-!
# Digits of numerals

A numeral of a fixed width has the digits of what is left of the number modulo that power of
the base, and digits are the numeral of their value in that width.  A numeral of its own
width starts with a zero only if it is that of zero, and digits that do not start with a
superfluous zero are the numeral of their value.
-/

namespace Lifeline.Text

theorem isDigit_of_mem_paddedDigits {width value : Nat} {char : Char}
    (member : char ∈ paddedDigits 10 width value) : char.isDigit = true := by
  induction width generalizing value with
  | zero => cases member
  | succ width ih =>
    rcases List.mem_append.mp member with earlier | last
    · exact ih earlier
    · rw [List.mem_singleton.mp last, Nat.isDigit_digitChar]
      exact decide_eq_true (Nat.mod_lt _ (by decide))

theorem ofDigitChars_paddedDigits (width value : Nat) :
    Nat.ofDigitChars 10 (paddedDigits 10 width value) 0 = value % 10 ^ width := by
  induction width generalizing value with
  | zero => rw [pow_zero, Nat.mod_one]; rfl
  | succ width ih =>
    rw [paddedDigits, Nat.ofDigitChars_append, ih,
      Nat.ofDigitChars_cons_digitChar_of_lt_ten (Nat.mod_lt _ (by decide)), Nat.ofDigitChars_nil,
      pow_succ', Nat.mod_mul, Nat.add_comm]

theorem paddedDigits_zero (width : Nat) :
    paddedDigits 10 width 0 = List.replicate width '0' := by
  induction width with
  | zero => rfl
  | succ width ih => rw [paddedDigits, Nat.zero_div, ih, List.replicate_succ']; rfl

/-- Only zero is written with a zero in front. -/
theorem eq_zero_of_head?_toDigits {value : Nat}
    (leading : (Nat.toDigits 10 value).head? = some '0') : value = 0 := by
  induction value using Nat.strongRecOn with
  | ind value ih =>
    rw [Nat.toDigits_eq_if (by decide)] at leading
    split at leading
    next small =>
      have digitEq : Nat.digitChar value = '0' := by simpa using leading
      have valueEq := Nat.toNat_digitChar_sub_48_of_lt_ten small
      rw [digitEq] at valueEq
      exact valueEq.symm
    next large =>
      obtain ⟨first, rest, digitsEq⟩ := List.exists_cons_of_ne_nil
        (Nat.toDigits_ne_nil : Nat.toDigits 10 (value / 10) ≠ [])
      rw [digitsEq] at leading
      have quotient := ih (value / 10) (by omega) (by rw [digitsEq]; exact leading)
      omega

theorem ofDigitChars_concat (digits : List Char) (last : Char) :
    Nat.ofDigitChars 10 (digits ++ [last]) 0 =
      10 * Nat.ofDigitChars 10 digits 0 + (last.toNat - '0'.toNat) := by
  rw [Nat.ofDigitChars_append, Nat.ofDigitChars_cons, Nat.ofDigitChars_nil]

theorem digitChar_toNat_sub {char : Char} (digit : char.isDigit = true) :
    char.toNat - '0'.toNat < 10 ∧ Nat.digitChar (char.toNat - '0'.toNat) = char := by
  rw [Char.isDigit, Bool.and_eq_true, decide_eq_true_eq, decide_eq_true_eq] at digit
  have low : '0'.toNat ≤ char.toNat := digit.1
  have high : char.toNat ≤ '9'.toNat := digit.2
  have zeroEq : '0'.toNat = 48 := rfl
  have nineEq : '9'.toNat = 57 := rfl
  have small : char.toNat - '0'.toNat < 10 := by omega
  refine ⟨small, Char.toNat_inj.mp ?_⟩
  rw [Nat.toNat_digitChar_of_lt_ten small]
  omega

theorem eq_paddedDigits {digits : List Char} (plain : ∀ char ∈ digits, char.isDigit = true) :
    digits = paddedDigits 10 digits.length (Nat.ofDigitChars 10 digits 0) := by
  induction digits using List.reverseRecOn with
  | nil => rfl
  | append_singleton front last ih =>
    have frontEq := ih fun char member => plain char (List.mem_append_left _ member)
    obtain ⟨small, lastEq⟩ := digitChar_toNat_sub (plain last (by simp))
    rw [ofDigitChars_concat, List.length_append, List.length_singleton, paddedDigits,
      Nat.mul_add_div (by decide), Nat.div_eq_of_lt small, Nat.add_zero, ← frontEq,
      Nat.mul_add_mod, Nat.mod_eq_of_lt small, lastEq]

theorem ofDigitChars_lt {digits : List Char} (plain : ∀ char ∈ digits, char.isDigit = true) :
    Nat.ofDigitChars 10 digits 0 < 10 ^ digits.length := by
  rw [eq_paddedDigits plain, ofDigitChars_paddedDigits, length_paddedDigits]
  exact Nat.mod_lt _ (Nat.pow_pos (by decide))

theorem eq_toDigits {digits : List Char} (plain : ∀ char ∈ digits, char.isDigit = true)
    (nonempty : digits ≠ []) (leading : digits.head? = some '0' → digits = ['0']) :
    digits = Nat.toDigits 10 (Nat.ofDigitChars 10 digits 0) := by
  induction digits using List.reverseRecOn with
  | nil => exact absurd rfl nonempty
  | append_singleton front last ih =>
    obtain ⟨small, lastEq⟩ := digitChar_toNat_sub (plain last (by simp))
    rw [ofDigitChars_concat]
    by_cases single : front = []
    · rw [single, Nat.ofDigitChars_nil, Nat.mul_zero, Nat.zero_add,
        Nat.toDigits_of_lt_base small, lastEq, List.nil_append]
    · obtain ⟨first, rest, consEq⟩ := List.exists_cons_of_ne_nil single
      have headEq : (front ++ [last]).head? = front.head? := by rw [consEq]; rfl
      have frontLeading : front.head? ≠ some '0' := by
        intro zero
        have digitsEq := leading (headEq.trans zero)
        have lengthEq := congrArg List.length digitsEq
        rw [List.length_append, List.length_singleton, List.length_singleton] at lengthEq
        exact single (List.eq_nil_of_length_eq_zero (by omega))
      have frontEq := ih (fun char member => plain char (List.mem_append_left _ member)) single
        fun zero => absurd zero frontLeading
      have positive : 0 < Nat.ofDigitChars 10 front 0 := by
        apply Nat.pos_of_ne_zero
        intro zero
        rw [zero, Nat.toDigits_zero] at frontEq
        exact frontLeading (by rw [frontEq]; rfl)
      rw [← Nat.toDigits_append_toDigits (by decide) positive small, ← frontEq,
        Nat.toDigits_of_lt_base small, lastEq]

end Lifeline.Text
