import Lifeline.Proofs.Decimal
import Lifeline.Proofs.Doubles
import Lifeline.Proofs.Nearest

/-!
# Numbers are written as the nearest hundredth

A number is written as the nearest multiple of the last decimal, in canonical form.  So
numbers share a text just when they share the nearest multiple, and opposite numbers have
opposite texts.
-/

namespace Lifeline

namespace Decimal

/-- Whether a text is the one canonical text of the multiple of the last decimal that is
nearest to a number. -/
structure Rounds (places : Nat) (value : Rat) (text : List Char) : Prop where
  canonical : IsCanonical places text
  nearest : ∃ count : Int, NearestMultiple (1 / 10 ^ places) value count ∧
    (Numeral.read text).value = count * (1 / 10 ^ places)
  only : ∀ other, IsCanonical places other →
    (Numeral.read other).value = (Numeral.read text).value → other = text

theorem nearestMultiple_ofFraction (places : Nat) (value : Rat) :
    NearestMultiple (1 / 10 ^ places) value
      (nearest (value * ((Nat.pow 10 places : Nat) : Rat))) := by
  have powEq : ((Nat.pow 10 places : Nat) : Rat) = 10 ^ places := Nat.cast_pow 10 places
  have positive : (0 : Rat) < 1 / 10 ^ places := by positivity
  apply NearestMultiple.of_scaled positive
  rw [div_div_eq_mul_div, div_one, powEq]
  exact nearestMultiple_nearest _

theorem rounds_ofFraction (places : Nat) (value : Rat) :
    Rounds places value (ofFraction places value) where
  canonical := isCanonical_ofUnits places _
  nearest := by
    refine ⟨_, nearestMultiple_ofFraction places value, ?_⟩
    rw [ofFraction, read_ofUnits, value_numeralOf, mul_one_div]
  only _ := (isCanonical_ofUnits places _).eq_of_value_eq

theorem ofFraction_eq_iff (places : Nat) (value other : Rat) :
    ofFraction places value = ofFraction places other ↔
      ∃ count : Int, NearestMultiple (1 / 10 ^ places) value count ∧
        NearestMultiple (1 / 10 ^ places) other count := by
  have positive : (0 : Rat) < 1 / 10 ^ places := by positivity
  constructor
  · intro same
    refine ⟨_, nearestMultiple_ofFraction places value, ?_⟩
    rw [ofUnits_injective places same]
    exact nearestMultiple_ofFraction places other
  · rintro ⟨count, nearestValue, nearestOther⟩
    rw [ofFraction, ofFraction,
      (nearestMultiple_ofFraction places value).unique positive nearestValue,
      (nearestMultiple_ofFraction places other).unique positive nearestOther]

theorem ofFraction_neg (places : Nat) (value : Rat) :
    ofFraction places (-value) = opposite (ofFraction places value) := by
  have positive : (0 : Rat) < 1 / 10 ^ places := by positivity
  rw [ofFraction, (nearestMultiple_ofFraction places (-value)).unique positive
    (nearestMultiple_ofFraction places value).neg, ofUnits_neg, ofFraction]

end Decimal

open Decimal

theorem toList_hundredths (value : Float) :
    (hundredths value).toList = ofFraction 2 (doubleValue value) := by
  rw [← exactDouble_eq]
  exact String.toList_ofList

/-- The text of a finite double is the canonical text of the hundredth nearest to it: finite
doubles with the same text are those with the same nearest hundredth, and the opposite double
has the opposite text. -/
theorem hundredths_canonical (value : Float) (finite : value.isFinite = true) :
    Rounds 2 (doubleValue value) (hundredths value).toList ∧
      (∀ other : Float, other.isFinite = true →
        (hundredths value = hundredths other ↔
          ∃ count : Int, NearestMultiple (1 / 10 ^ 2) (doubleValue value) count ∧
            NearestMultiple (1 / 10 ^ 2) (doubleValue other) count)) ∧
      (hundredths (-value)).toList = opposite (hundredths value).toList := by
  refine ⟨?_, fun other _ => ?_, ?_⟩
  · rw [toList_hundredths]
    exact rounds_ofFraction 2 (doubleValue value)
  · rw [← String.toList_inj, toList_hundredths, toList_hundredths]
    exact ofFraction_eq_iff 2 (doubleValue value) (doubleValue other)
  · rw [toList_hundredths, toList_hundredths, doubleValue_neg finite]
    exact ofFraction_neg 2 (doubleValue value)

/-- One eighth stands halfway between two hundredths, and it is written as the even one. -/
theorem hundredths_canonical_eighth :
    (Float.ofBits 0x3FC0000000000000).isFinite = true ∧
      hundredths (Float.ofBits 0x3FC0000000000000) = "0.12" ∧
      Rounds 2 (doubleValue (Float.ofBits 0x3FC0000000000000)) "0.12".toList ∧
      (∃ count : Int,
        NearestMultiple (1 / 10 ^ 2) (doubleValue (Float.ofBits 0x3FC0000000000000)) count ∧
          NearestMultiple (1 / 10 ^ 2) (doubleValue (Float.ofBits 0x3FBEB851EB851EB8)) count) ∧
      hundredths (-Float.ofBits 0x3FC0000000000000) = "-0.12" := by
  have finite : (Float.ofBits 0x3FC0000000000000).isFinite = true := by decide +kernel
  have otherFinite : (Float.ofBits 0x3FBEB851EB851EB8).isFinite = true := by decide +kernel
  have text : hundredths (Float.ofBits 0x3FC0000000000000) = "0.12" := by decide +kernel
  have otherText : hundredths (Float.ofBits 0x3FBEB851EB851EB8) = "0.12" := by decide +kernel
  obtain ⟨rounds, shared, opposite⟩ := hundredths_canonical _ finite
  rw [text] at rounds opposite
  exact ⟨finite, text, rounds, (shared _ otherFinite).mp (text.trans otherText.symm),
    String.toList_inj.mp opposite⟩

end Lifeline
