import Lifeline.Scalar
import Mathlib.Algebra.Order.Group.Unbundled.Abs
import Mathlib.Data.Rat.Floor
import Mathlib.Tactic.Linarith

/-!
# Rounding to the nearest multiple

The multiple of a step that is nearest to a number is unique when of two equally near ones
the even one counts, and it is what rounding half to even finds.
-/

namespace Lifeline

/-- Whether a count of steps is the multiple of the step that is nearest to a number, and
the even one if another is as near. -/
structure NearestMultiple (step value : Rat) (count : Int) : Prop where
  closest : ∀ other : Int, |value - count * step| ≤ |value - other * step|
  even_of_tie : ∀ other : Int, other ≠ count →
    |value - other * step| = |value - count * step| → Even count

namespace NearestMultiple

variable {step value : Rat} {count other : Int}

/-- Counting in steps is counting in units of a scaled number. -/
theorem of_scaled (positive : 0 < step) (nearest : NearestMultiple 1 (value / step) count) :
    NearestMultiple step value count := by
  have scaled (other : Int) :
      |value - other * step| = |value / step - other * 1| * step := by
    rw [← abs_of_pos positive, ← abs_mul, abs_of_pos positive, mul_one, sub_mul,
      div_mul_cancel₀ value positive.ne']
  refine ⟨fun other => ?_, fun other different tie => ?_⟩
  · rw [scaled, scaled]
    exact mul_le_mul_of_nonneg_right (nearest.closest other) positive.le
  · rw [scaled, scaled] at tie
    exact nearest.even_of_tie other different (mul_right_cancel₀ positive.ne' tie)

/-- Two multiples that are equally near are on the two sides of the number. -/
theorem middle_of_tie (positive : 0 < step) (different : count ≠ other)
    (tie : |value - other * step| = |value - count * step|) :
    2 * value = ((count + other : Int) : Rat) * step := by
  rcases abs_eq_abs.mp tie with same | opposite
  · have equal : (other : Rat) * step = count * step := by linarith
    exact absurd (Int.cast_injective (mul_right_cancel₀ positive.ne' equal)).symm different
  · push_cast
    linarith

/-- Of two even multiples that are equally near, the one in the middle would be nearer. -/
theorem unique (positive : 0 < step) (first : NearestMultiple step value count)
    (second : NearestMultiple step value other) : count = other := by
  by_contra different
  have tie : |value - other * step| = |value - count * step| :=
    le_antisymm (second.closest count) (first.closest other)
  obtain ⟨half, rfl⟩ := first.even_of_tie other (Ne.symm different) tie
  obtain ⟨otherHalf, rfl⟩ := second.even_of_tie (half + half) different tie.symm
  have middle := middle_of_tie positive different tie
  have onMiddle : value - ((half + otherHalf : Int) : Rat) * step = 0 := by
    push_cast at middle ⊢
    linarith
  have onFirst : |value - ((half + half : Int) : Rat) * step| = 0 :=
    le_antisymm (by simpa only [onMiddle, abs_zero] using first.closest (half + otherHalf))
      (abs_nonneg _)
  have onSecond : |value - ((otherHalf + otherHalf : Int) : Rat) * step| = 0 := tie.trans onFirst
  have equal :
      ((half + half : Int) : Rat) * step = ((otherHalf + otherHalf : Int) : Rat) * step := by
    linarith [abs_eq_zero.mp onFirst, abs_eq_zero.mp onSecond]
  exact different (Int.cast_injective (mul_right_cancel₀ positive.ne' equal))

theorem neg (nearest : NearestMultiple step value count) :
    NearestMultiple step (-value) (-count) := by
  have opposite (other : Int) : |(-value) - other * step| = |value - (-other : Int) * step| := by
    rw [← abs_neg]
    push_cast
    congr 1
    ring
  refine ⟨fun other => ?_, fun other different tie => ?_⟩
  · rw [opposite, opposite, neg_neg]
    exact nearest.closest (-other)
  · rw [opposite, opposite, neg_neg] at tie
    exact (nearest.even_of_tie (-other) (by omega) tie).neg

end NearestMultiple

namespace Decimal

theorem one_le_of_ne (value : Rat) {count other : Int} (different : count ≠ other) :
    1 ≤ |value - count| + |value - other| := by
  have apart : (1 : Rat) ≤ |(count : Rat) - other| := by
    exact_mod_cast Int.one_le_abs (sub_ne_zero.mpr different)
  have triangle := abs_sub_le (count : Rat) value other
  rw [abs_sub_comm (count : Rat) value] at triangle
  exact apart.trans triangle

theorem nearestMultiple_one {value : Rat} {count : Int} (near : |value - count| ≤ 1 / 2)
    (even : |value - count| = 1 / 2 → Even count) : NearestMultiple 1 value count := by
  refine ⟨fun other => ?_, fun other different tie => ?_⟩
  · rw [mul_one, mul_one]
    by_cases same : count = other
    · rw [same]
    · linarith [one_le_of_ne value same]
  · rw [mul_one, mul_one] at tie
    apply even
    linarith [one_le_of_ne value (Ne.symm different)]

theorem nearestMultiple_nearest (value : Rat) : NearestMultiple 1 value (nearest value) := by
  have below := Rat.floor_le value
  have above := Rat.lt_floor_add_one value
  push_cast at above
  have halfEq : mkRat 1 2 = 1 / 2 := by rw [Rat.mkRat_eq_div]; rfl
  rw [nearest]
  simp only [halfEq]
  split
  next less =>
    have distance : |value - (value.floor : Rat)| = value - value.floor :=
      abs_of_nonneg (by linarith)
    exact nearestMultiple_one (by linarith) (fun tie => by linarith)
  next notLess =>
  have distance : |value - ((value.floor + 1 : Int) : Rat)| = value.floor + 1 - value := by
    push_cast
    rw [abs_of_nonpos (by linarith)]
    ring
  split
  next more => exact nearestMultiple_one (by linarith) (fun tie => by linarith)
  next notMore =>
  split
  next even =>
    have half : |value - (value.floor : Rat)| ≤ 1 / 2 := abs_le.mpr ⟨by linarith, by linarith⟩
    exact nearestMultiple_one half (fun _ => Int.even_iff.mpr even)
  next odd =>
    exact nearestMultiple_one (by linarith) (fun _ => Int.even_iff.mpr (by omega))

end Decimal

end Lifeline
