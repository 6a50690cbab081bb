import CloudPlan.Number.Binary
import Mathlib

/-!
# The fields of doubles

A double in binary form is what the logical model of doubles unpacks it to.  A number with 53
significant bits is packed as itself if its exponent is small enough, and else as infinity.
-/

namespace CloudPlan.Number

open Float.Model Float.Model.UnpackedFloat

variable {x : Float} {sign : Sign} {significand : Nat} {exponent : Int}

/-! ## Unpacking -/

/-- The bits of a double. -/
def bitsOf (x : Float) : BitVec Format.binary64.numBits :=
  x.toModel.toBits.toBitVec

/-- The fields of a double are those that the model takes out of its bits. -/
theorem fields_eq (x : Float) :
    Binary.fields x =
      ((unpackSign (bitsOf x)).toNat == 1, (unpackExponent (bitsOf x)).toNat,
        (unpackMantissa (bitsOf x)).toNat) := by
  have bits : (bitsOf x).toNat = x.toBits.toNat := rfl
  have bound : (bitsOf x).toNat < 2 ^ 64 := (bitsOf x).isLt
  have isSign : (unpackSign (bitsOf x)).toNat = (bitsOf x).toNat / 2 ^ 63 := by
    simp [unpackSign, Nat.shiftRight_eq_div_pow]
    omega
  have isExponent : (unpackExponent (bitsOf x)).toNat = (bitsOf x).toNat / 2 ^ 52 % 2 ^ 11 := by
    simp [unpackExponent, Nat.shiftRight_eq_div_pow]
  have isMantissa : (unpackMantissa (bitsOf x)).toNat = (bitsOf x).toNat % 2 ^ 52 := by
    simp [unpackMantissa]
  rw [isSign, isExponent, isMantissa, bits]
  rfl

theorem toNat_implicit (mantissa : BitVec 52) :
    (1#1 ++ mantissa).toNat = 2 ^ 52 + mantissa.toNat := by
  rw [BitVec.toNat_append, ← Nat.shiftLeft_add_eq_or_of_lt mantissa.isLt]
  rfl

/-- All bits of an exponent field are set. -/
theorem eq_neg_one_iff (field : BitVec 11) :
    field = -1#11 ↔ field.toNat = 2047 := by
  rw [← BitVec.toNat_inj]
  rfl

theorem eq_zero_iff {width : Nat} (field : BitVec width) :
    field = BitVec.ofNat width 0 ↔ field.toNat = 0 := by
  rw [← BitVec.toNat_inj, BitVec.toNat_ofNat, Nat.zero_mod]

theorem toNat_beq_one :
    ∀ bit : BitVec 1, (bit.toNat == 1) = (Sign.ofBitVec bit == .negative) := by
  decide

/-- A finite double is in binary form what it is unpacked to. -/
theorem ofFloat?_of_unpack_eq_finite
    {positive : 0 < significand}
    (unpacked : x.toModel.unpack = .finite sign significand exponent positive) :
    Binary.ofFloat? x = some ⟨sign == .negative, significand, exponent⟩ := by
  change UnpackedFloat.unpack Format.binary64 (bitsOf x) = _ at unpacked
  rw [Binary.ofFloat?, fields_eq, toNat_beq_one]
  simp only [UnpackedFloat.unpack, eq_neg_one_iff, eq_zero_iff] at unpacked
  split at unpacked
  next => split at unpacked <;> contradiction
  next notAll =>
    simp only [if_neg notAll]
    split at unpacked
    next isZero =>
      split at unpacked
      next => contradiction
      next =>
        injection unpacked with sameSign sameSignificand sameExponent
        simp only [← sameSign, ← sameSignificand, ← sameExponent, isZero]
        rfl
    next notZero =>
      injection unpacked with sameSign sameSignificand sameExponent
      rw [toNat_implicit] at sameSignificand
      simp only [if_neg notZero, ← sameSign, ← sameSignificand, ← sameExponent]
      rfl

/-- An infinite double has no binary form. -/
theorem ofFloat?_of_unpack_eq_infinity
    (unpacked : x.toModel.unpack = .infinity sign) :
    Binary.ofFloat? x = none := by
  change UnpackedFloat.unpack Format.binary64 (bitsOf x) = _ at unpacked
  rw [Binary.ofFloat?, fields_eq]
  simp only [UnpackedFloat.unpack, eq_neg_one_iff, eq_zero_iff] at unpacked
  split at unpacked
  next isAll => simp only [if_pos isAll]
  next =>
    split at unpacked
    next => split at unpacked <;> contradiction
    next => contradiction

/-! ## Packing -/

/-- Numbers with 53 significant bits whose exponents are small enough are packed. -/
theorem unpack_pack_of_fits
    (positive : 0 < significand)
    (full : significand.log2 = 52)
    (least : -1074 ≤ exponent)
    (fits : exponent ≤ 971) :
    (Float.Model.pack (.finite sign significand exponent positive)).unpack =
      .finite sign significand exponent positive := by
  obtain ⟨field, isField⟩ := Int.eq_ofNat_of_zero_le (by omega : 0 ≤ exponent + 1075)
  have isExponent : (BitVec.ofNat 11 field).toNat = field := by
    rw [BitVec.toNat_ofNat]
    omega
  have isSignificand : (1#1 ++ BitVec.ofNat 52 significand).toNat = significand := by
    have bounds := (Nat.log2_eq_iff (Nat.ne_of_gt positive)).1 full
    rw [toNat_implicit, BitVec.toNat_ofNat]
    omega
  have packed : UnpackedFloat.pack Format.binary64 (.finite sign significand exponent positive) =
      packComponents Format.binary64 sign (BitVec.ofNat 11 field)
        (BitVec.ofNat 52 significand) := by
    have biased : (exponent + Format.binary64.exponentBias +
        Format.binary64.mantissaBitsWithoutImplicit).toNat = field := by
      change (exponent + 1023 + 52).toNat = field
      omega
    rw [UnpackedFloat.pack, biased, if_neg, if_pos]
    · rw [full]
      rfl
    · change ¬ 2048 ≤ field + 1
      omega
  change UnpackedFloat.unpack Format.binary64 (UnpackedFloat.pack Format.binary64 _) = _
  have notAll : field ≠ 2047 := by omega
  have notZero : field ≠ 0 := by omega
  simp only [packed, UnpackedFloat.unpack, unpackMantissa_packComponents,
    unpackExponent_packComponents, unpackSign_packComponents, Sign.ofBitVec_toBitVec,
    eq_neg_one_iff, eq_zero_iff, isExponent, if_neg notAll, if_neg notZero, isSignificand]
  congr 1
  change (field : Int) - (1023 + 52) = exponent
  omega

/-- Numbers with greater exponents are packed as infinity. -/
theorem unpack_pack_of_overflow
    (positive : 0 < significand)
    (overflows : 971 < exponent) :
    (Float.Model.pack (.finite sign significand exponent positive)).unpack = .infinity sign := by
  have packed : UnpackedFloat.pack Format.binary64 (.finite sign significand exponent positive) =
      packedInfinity Format.binary64 sign := by
    rw [UnpackedFloat.pack, if_pos]
    change 2048 ≤ (exponent + 1023 + 52).toNat + 1
    omega
  change UnpackedFloat.unpack Format.binary64 (UnpackedFloat.pack Format.binary64 _) = _
  simp [packed, packedInfinity, UnpackedFloat.unpack]

end CloudPlan.Number
