import Lifeline.Scalar
import Mathlib.Algebra.Order.Field.Rat
import Mathlib.Tactic.NormNum

/-!
# The fraction that a double stands for

A finite double is a sign, a mantissa and an exponent.  The exact value that texts and cells
are made from is read off its bits, and it is the mantissa scaled by that power of two.  The
opposite of a double stands for the opposite fraction.
-/

namespace Lifeline

open Float.Model Float.Model.UnpackedFloat

/-- The fraction that an unpacked number stands for, if it is finite. -/
def unpackedValue : UnpackedFloat → Rat
  | .finite sign mantissa exponent _ => (sign.apply mantissa : Int) * 2 ^ exponent
  | _ => 0

theorem unpackedValue_finite (sign : Sign) {mantissa : Nat} (exponent : Int)
    (positive : 0 < mantissa) :
    unpackedValue (.finite sign mantissa exponent positive) =
      (sign.apply mantissa : Int) * 2 ^ exponent :=
  rfl

def doubleValue (value : Float) : Rat :=
  unpackedValue value.toModel.unpack

section Fields

variable (bits : BitVec Format.binary64.numBits)

theorem toNat_unpackMantissa :
    (unpackMantissa bits).toNat = bits.toNat % 2 ^ 52 := by
  simp [unpackMantissa]

theorem toNat_unpackExponent :
    (unpackExponent bits).toNat = bits.toNat / 2 ^ 52 % 2 ^ 11 := by
  simp [unpackExponent, Nat.shiftRight_eq_div_pow]

theorem toNat_unpackSign :
    (unpackSign bits).toNat = bits.toNat / 2 ^ 63 := by
  have small : bits.toNat < 2 ^ 64 := bits.isLt
  have signEq : (unpackSign bits).toNat = (BitVec.extractLsb 63 63 bits).toNat := rfl
  rw [signEq, BitVec.extractLsb_toNat, Nat.shiftRight_eq_div_pow]
  omega

end Fields

/-- A mantissa scaled by a power of two, as it is computed without fractions. -/
theorem scaled_eq (mantissa scale : Nat) :
    (if 1075 ≤ scale then ((mantissa * Nat.pow 2 (scale - 1075) : Nat) : Rat)
      else mkRat mantissa (Nat.pow 2 (1075 - scale))) =
      mantissa * 2 ^ ((scale : Int) - 1075) := by
  split
  next large =>
    obtain ⟨excess, rfl⟩ := Nat.exists_eq_add_of_le large
    have exponentEq : ((1075 + excess : Nat) : Int) - 1075 = (excess : Int) := by omega
    rw [exponentEq, zpow_natCast, Nat.add_sub_cancel_left, Nat.cast_mul]
    exact congrArg _ (Nat.cast_pow 2 excess)
  next small =>
    obtain ⟨missing, missingEq⟩ := Nat.exists_eq_add_of_le (Nat.le_of_not_le small)
    have exponentEq : (scale : Int) - 1075 = -(missing : Int) := by omega
    have powEq : Nat.pow 2 (1075 - scale) = 2 ^ missing := by
      rw [missingEq, Nat.add_sub_cancel_left]
      rfl
    rw [exponentEq, zpow_neg, zpow_natCast, powEq, Rat.mkRat_eq_div, div_eq_mul_inv]
    norm_num

/-- The size of a double whose exponent and fraction are stored in such fields. -/
def fieldsSize (exponent fraction : Nat) : Rat :=
  if exponent = 2047 then 0
  else if exponent = 0 then fraction * 2 ^ (-1074 : Int)
  else ((fraction + 2 ^ 52 : Nat) : Rat) * 2 ^ ((exponent : Int) - 1075)

def fieldsValue (sign exponent fraction : Nat) : Rat :=
  if sign = 0 then fieldsSize exponent fraction else -fieldsSize exponent fraction

theorem exactDouble_eq_fieldsValue (value : Float) :
    exactDouble value =
      fieldsValue (value.toBits.toNat / 2 ^ 63) (value.toBits.toNat / 2 ^ 52 % 2 ^ 11)
        (value.toBits.toNat % 2 ^ 52) := by
  have positive_iff : value.toBits.toNat < Nat.pow 2 63 ↔ value.toBits.toNat / 2 ^ 63 = 0 := by
    rw [Nat.div_eq_zero_iff]
    simp
  have size_eq (exponent fraction : Nat) :
      (if exponent = 2047 then (0 : Rat)
        else if 1075 ≤ max exponent 1 then
          (((if exponent = 0 then fraction else fraction + Nat.pow 2 52) *
            Nat.pow 2 (max exponent 1 - 1075) : Nat) : Rat)
        else mkRat (if exponent = 0 then fraction else fraction + Nat.pow 2 52 : Nat)
          (Nat.pow 2 (1075 - max exponent 1))) = fieldsSize exponent fraction := by
    rw [scaled_eq, fieldsSize]
    congr 1
    split
    next zero => rw [zero]; rfl
    next positive => rw [max_eq_left (by omega)]; rfl
  simp only [exactDouble, fieldsValue, positive_iff]
  exact congrArg₂ _ (size_eq _ _) (congrArg _ (size_eq _ _))

theorem apply_ofBitVec (sign : BitVec 1) (mantissa : Nat) (scale : Rat) :
    (((Sign.ofBitVec sign).apply mantissa : Int) : Rat) * scale =
      if sign.toNat = 0 then mantissa * scale else -(mantissa * scale) := by
  have zero_iff : sign = 0#1 ↔ sign.toNat = 0 := by
    rw [← BitVec.toNat_inj]
    rfl
  by_cases zero : sign = 0#1
  · rw [Sign.ofBitVec, if_pos zero, if_pos (zero_iff.mp zero)]
    rfl
  · rw [Sign.ofBitVec, if_neg zero, if_neg (mt zero_iff.mpr zero), Sign.apply, Int.cast_neg,
      Int.cast_natCast, neg_mul]

theorem toNat_implicit (fraction : BitVec 52) :
    (1#1 ++ fraction).toNat = fraction.toNat + 2 ^ 52 := by
  rw [BitVec.toNat_append, ← Nat.shiftLeft_add_eq_or_of_lt fraction.isLt, Nat.add_comm]
  rfl

theorem eq_full_iff (exponent : BitVec 11) : exponent = -1#11 ↔ exponent.toNat = 2047 := by
  rw [← BitVec.toNat_inj]
  rfl

/-- What the fields of a double stand for. -/
def ofFields (sign : Sign) (exponent : BitVec 11) (fraction : BitVec 52) : UnpackedFloat :=
  if exponent = -1#11 then
    if fraction = 0#52 then .infinity sign else .notANumber
  else if exponent = 0#11 then
    if nothing : fraction = 0#52 then .zero sign
    else
      .finite sign fraction.toNat (exponent.toNat - 1075 + 1) (BitVec.toNat_pos_of_ne_zero nothing)
  else
    .finite sign (1#1 ++ fraction).toNat (exponent.toNat - 1075)
      (by rw [toNat_implicit]; omega)

theorem unpack_eq_ofFields (bits : BitVec Format.binary64.numBits) :
    UnpackedFloat.unpack Format.binary64 bits =
      ofFields (Sign.ofBitVec (unpackSign bits)) (unpackExponent bits) (unpackMantissa bits) :=
  rfl

/-- Stored fields are full, stand for nothing, or have an implicit leading bit or none. -/
@[elab_as_elim]
theorem fieldsCases {motive : BitVec 11 → BitVec 52 → Prop}
    (full : ∀ fraction, motive (-1#11) fraction) (nothing : motive 0#11 0#52)
    (subnormal : ∀ fraction, fraction ≠ 0#52 → motive 0#11 fraction)
    (normal : ∀ exponent fraction, exponent ≠ -1#11 → exponent ≠ 0#11 → motive exponent fraction)
    (exponent : BitVec 11) (fraction : BitVec 52) : motive exponent fraction := by
  by_cases isFull : exponent = -1#11
  · exact isFull ▸ full fraction
  by_cases empty : exponent = 0#11
  · subst empty
    by_cases isNothing : fraction = 0#52
    · exact isNothing ▸ nothing
    · exact subnormal fraction isNothing
  · exact normal exponent fraction isFull empty

section OfFields

variable (sign : Sign) {exponent : BitVec 11} {fraction : BitVec 52}

theorem ofFields_subnormal (nonzero : fraction ≠ 0#52) :
    ofFields sign 0#11 fraction =
      .finite sign fraction.toNat (-1074) (BitVec.toNat_pos_of_ne_zero nonzero) :=
  (if_neg (by decide)).trans ((if_pos rfl).trans (dif_neg nonzero))

theorem ofFields_normal (notFull : exponent ≠ -1#11) (filled : exponent ≠ 0#11) :
    ofFields sign exponent fraction =
      .finite sign (1#1 ++ fraction).toNat (exponent.toNat - 1075)
        (by rw [toNat_implicit]; omega) :=
  (if_neg notFull).trans (if_neg filled)

end OfFields

theorem unpackedValue_ofFields (sign : BitVec 1) (exponent : BitVec 11) (fraction : BitVec 52) :
    unpackedValue (ofFields (Sign.ofBitVec sign) exponent fraction) =
      fieldsValue sign.toNat exponent.toNat fraction.toNat := by
  induction exponent, fraction using fieldsCases with
  | full fraction =>
      have sizeEq : fieldsSize (-1#11).toNat fraction.toNat = 0 := if_pos rfl
      rw [fieldsValue, sizeEq, neg_zero, ite_self, ofFields, if_pos rfl]
      split <;> rfl
  | nothing =>
      have sizeEq : fieldsSize (0#11).toNat (0#52).toNat = 0 := zero_mul _
      rw [fieldsValue, sizeEq, neg_zero, ite_self]
      rfl
  | subnormal fraction nonzero =>
      have sizeEq : fieldsSize (0#11).toNat fraction.toNat = fraction.toNat * 2 ^ (-1074 : Int) :=
        (if_neg (by decide)).trans (if_pos rfl)
      rw [fieldsValue, sizeEq, ofFields_subnormal _ nonzero, unpackedValue_finite,
        apply_ofBitVec]
  | normal exponent fraction notFull filled =>
      rw [fieldsValue, fieldsSize, if_neg (mt (eq_full_iff exponent).mpr notFull),
        if_neg (BitVec.toNat_pos_of_ne_zero filled).ne', ofFields_normal _ notFull filled,
        unpackedValue_finite, apply_ofBitVec, toNat_implicit]

/-- The value read off the bits of a double is that of its sign, mantissa and exponent. -/
theorem exactDouble_eq (value : Float) : exactDouble value = doubleValue value := by
  rw [exactDouble_eq_fieldsValue, doubleValue, Float.Model.unpack, unpack_eq_ofFields,
    unpackedValue_ofFields, toNat_unpackSign, toNat_unpackExponent, toNat_unpackMantissa]
  rfl

theorem unpackedValue_neg (unpacked : UnpackedFloat) :
    unpackedValue unpacked.neg = -unpackedValue unpacked := by
  cases unpacked with
  | finite sign mantissa exponent positive =>
      have applied : ((-sign).apply mantissa : Int) = -sign.apply mantissa := by
        cases sign with
        | positive => rfl
        | negative => exact (neg_neg _).symm
      have negEq : (finite sign mantissa exponent positive).neg =
          finite (-sign) mantissa exponent positive := rfl
      rw [negEq, unpackedValue_finite, unpackedValue_finite, applied, Int.cast_neg, neg_mul]
  | zero sign => exact neg_zero.symm
  | infinity sign => exact neg_zero.symm
  | notANumber => exact neg_zero.symm

section Packed

variable (sign : Sign) (exponent : BitVec 11) (fraction : BitVec 52)

theorem ofBitVec_unpackSign :
    Sign.ofBitVec (unpackSign (packComponents Format.binary64 sign exponent fraction)) = sign := by
  have signEq :
      unpackSign (packComponents Format.binary64 sign exponent fraction) = sign.toBitVec := by
    rw [← BitVec.toNat_inj, toNat_unpackSign, packComponents, BitVec.toNat_append,
      ← Nat.shiftLeft_add_eq_or_of_lt fraction.isLt, BitVec.toNat_append,
      ← Nat.shiftLeft_add_eq_or_of_lt exponent.isLt, Nat.shiftLeft_eq, Nat.shiftLeft_eq]
    have exponentLt := exponent.isLt
    have fractionLt := fraction.isLt
    omega
  rw [signEq]
  cases sign <;> rfl

theorem unpack_packComponents :
    UnpackedFloat.unpack Format.binary64 (packComponents Format.binary64 sign exponent fraction) =
      ofFields sign exponent fraction := by
  rw [unpack_eq_ofFields, ofBitVec_unpackSign, unpackExponent_packComponents,
    unpackMantissa_packComponents]

theorem neg_ofFields (notFull : exponent ≠ -1#11) :
    (ofFields sign exponent fraction).neg = ofFields (-sign) exponent fraction := by
  induction exponent, fraction using fieldsCases with
  | full fraction => exact absurd rfl notFull
  | nothing => rfl
  | subnormal fraction nonzero =>
      rw [ofFields_subnormal _ nonzero, ofFields_subnormal _ nonzero]
      rfl
  | normal exponent fraction _ filled =>
      rw [ofFields_normal _ notFull filled, ofFields_normal _ notFull filled]
      rfl

theorem pack_finite {mantissa : Nat} (scale : Int) (positive : 0 < mantissa) :
    UnpackedFloat.pack Format.binary64 (.finite sign mantissa scale positive) =
      if 2 ^ 11 ≤ (scale + (1023 : Nat) + (52 : Nat)).toNat + 1 then
        packedInfinity Format.binary64 sign
      else if mantissa.log2 + 1 = 53 then
        packComponents Format.binary64 sign
          (BitVec.ofNat 11 (scale + (1023 : Nat) + (52 : Nat)).toNat) (BitVec.ofNat 52 mantissa)
      else packComponents Format.binary64 sign 0#11 (BitVec.ofNat 52 mantissa) :=
  rfl

/-- A finite double is packed into the fields that it was unpacked from. -/
theorem pack_ofFields (notFull : exponent ≠ -1#11) :
    UnpackedFloat.pack Format.binary64 (ofFields sign exponent fraction) =
      packComponents Format.binary64 sign exponent fraction := by
  induction exponent, fraction using fieldsCases with
  | full fraction => exact absurd rfl notFull
  | nothing => rfl
  | subnormal fraction nonzero =>
      have short : fraction.toNat.log2 < 52 :=
        (Nat.log2_lt (BitVec.toNat_pos_of_ne_zero nonzero).ne').mpr fraction.isLt
      rw [ofFields_subnormal _ nonzero, pack_finite, if_neg (by decide), if_neg (by omega),
        BitVec.ofNat_toNat, BitVec.setWidth_eq]
  | normal exponent fraction _ filled =>
      have fractionLt := fraction.isLt
      have exponentLt : exponent.toNat < 2047 := by
        have limit := exponent.isLt
        have otherThanFull := (eq_full_iff exponent).not.mp notFull
        omega
      have long : (1#1 ++ fraction).toNat.log2 = 52 := by
        rw [toNat_implicit, Nat.log2_eq_iff (by omega)]
        omega
      have biased :
          ((exponent.toNat : Int) - 1075 + (1023 : Nat) + (52 : Nat)).toNat = exponent.toNat := by
        omega
      have fractionEq : BitVec.ofNat 52 (1#1 ++ fraction).toNat = fraction := by
        refine BitVec.eq_of_toNat_eq ?_
        rw [BitVec.toNat_ofNat, toNat_implicit]
        omega
      rw [ofFields_normal _ notFull filled, pack_finite, biased, if_neg (by omega),
        if_pos (by rw [long]), BitVec.ofNat_toNat, BitVec.setWidth_eq, fractionEq]

end Packed

theorem unpackExponent_ne_of_isFinite {bits : BitVec Format.binary64.numBits}
    (finite : (UnpackedFloat.unpack Format.binary64 bits).isFinite = true) :
    unpackExponent bits ≠ -1#11 := by
  intro full
  rw [unpack_eq_ofFields, ofFields, if_pos full] at finite
  split at finite <;> cases finite

theorem doubleValue_neg {value : Float} (finite : value.isFinite = true) :
    doubleValue (-value) = -doubleValue value := by
  let bits : BitVec Format.binary64.numBits := value.toModel.toBits.toBitVec
  have notFull : unpackExponent bits ≠ -1#11 := unpackExponent_ne_of_isFinite finite
  have negEq := neg_ofFields (Sign.ofBitVec (unpackSign bits)) _ (unpackMantissa bits) notFull
  have packed : (-value).toModel.toBits.toBitVec = _ :=
    (congrArg (UnpackedFloat.pack Format.binary64) negEq).trans (pack_ofFields _ _ _ notFull)
  rw [doubleValue, Float.Model.unpack, packed, unpack_packComponents, ← negEq, unpackedValue_neg]
  rfl

end Lifeline
