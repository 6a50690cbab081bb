import CloudPlan.Number.Reading
import CloudPlan.Proofs.Number.Unpacking

/-!
# Whole numbers as doubles

A whole number below `2 ^ 53` is a double, and no greater one is rounded to a double below
`2 ^ 53`.  So a double that is a whole number below this bound has been rounded from no other
whole number.
-/

namespace CloudPlan.Number

open Float.Model Float.Model.UnpackedFloat

variable {number scale : Nat}

/-! ## Shifting -/

theorem log2_mul_two_pow
    (positive : 0 < number)
    (scale : Nat) :
    (number * 2 ^ scale).log2 = number.log2 + scale := by
  have nonzero : number ≠ 0 := Nat.ne_of_gt positive
  have scaled : number * 2 ^ scale ≠ 0 := Nat.mul_ne_zero nonzero (by positivity)
  rw [Nat.log2_eq_iff scaled, Nat.add_right_comm, Nat.pow_add, Nat.pow_add]
  constructor
  · exact Nat.mul_le_mul_right _ (Nat.log2_self_le nonzero)
  · exact Nat.mul_lt_mul_of_pos_right Nat.lt_log2_self (by positivity)

theorem mantissa_shiftRight
    (extended : ExtendedMantissa)
    (places : Nat) :
    (extended >>> places).mantissa = extended.mantissa / 2 ^ places := by
  induction places with
  | zero => exact (Nat.div_one _).symm
  | succ places inductionHypothesis =>
      have shifted : (extended >>> (places + 1)).mantissa = (extended >>> places).mantissa / 2 :=
        rfl
      rw [shifted, inductionHypothesis, Nat.div_div_eq_div_mul, Nat.pow_succ]

/-- Nothing is lost when zeros are shifted out. -/
theorem shiftRight_of_scaled
    (number places : Nat) :
    (ExtendedMantissa.mk (number * 2 ^ places) false false) >>> places =
      ExtendedMantissa.mk number false false := by
  induction places generalizing number with
  | zero => exact congrArg (ExtendedMantissa.mk · false false) (Nat.mul_one number)
  | succ places inductionHypothesis =>
      have regroup : number * 2 ^ (places + 1) = number * 2 * 2 ^ places := by
        rw [Nat.pow_succ, Nat.mul_comm (2 ^ places), Nat.mul_assoc]
      have shifted :
          (ExtendedMantissa.mk (number * 2 ^ (places + 1)) false false) >>> (places + 1) =
          ((ExtendedMantissa.mk (number * 2 ^ (places + 1)) false false) >>>
            places).shiftRightOne := rfl
      rw [shifted, regroup, inductionHypothesis (number * 2)]
      simp [ExtendedMantissa.shiftRightOne]

theorem roundedMantissa_bounds (extended : ExtendedMantissa) :
    extended.mantissa ≤ extended.roundedMantissa ∧
      extended.roundedMantissa ≤ extended.mantissa + 1 := by
  obtain ⟨mantissa, roundBit, stickyBit⟩ := extended
  cases roundBit <;> cases stickyBit <;>
    simp only [ExtendedMantissa.roundedMantissa, ExtendedMantissa.accuracy,
      Accuracy.roundToNearestEven] <;> omega

/-! ## Rounding -/

theorem targetExponent_eq
    (total : Int) :
    Format.binary64.targetExponent total = max (total - 53) (-1074) :=
  rfl

/-- What has 53 significant bits stays as it is. -/
theorem shiftToTargetExponent_of_full
    {significand : Nat}
    {exponent : Int}
    (full : significand.log2 = 52)
    (least : -1074 ≤ exponent) :
    shiftToTargetExponent Format.binary64 significand exponent .exact =
      (ExtendedMantissa.mk significand false false, exponent) := by
  have target : (Format.binary64.targetExponent (totalExponent significand exponent) -
      exponent).toNat = 0 := by
    rw [targetExponent_eq, totalExponent, full]
    omega
  rw [shiftToTargetExponent, shiftToExponent, target]
  exact Prod.ext rfl (Int.add_zero exponent)

/-- A number that a shift has filled up by one bit more loses this bit again. -/
theorem shiftToTargetExponent_of_carry
    {exponent : Int}
    (least : -1074 ≤ exponent) :
    shiftToTargetExponent Format.binary64 (2 ^ 53) exponent .exact =
      (ExtendedMantissa.mk (2 ^ 52) false false, exponent + 1) := by
  have target : (Format.binary64.targetExponent (totalExponent (2 ^ 53) exponent) -
      exponent).toNat = 1 := by
    rw [targetExponent_eq, totalExponent, Nat.log2_two_pow]
    omega
  have halved : (ExtendedMantissa.mk (2 ^ 53) false false) >>> 1 =
      ExtendedMantissa.mk (2 ^ 52) false false := by
    rw [Nat.pow_succ]
    exact shiftRight_of_scaled (2 ^ 52) 1
  rw [shiftToTargetExponent, shiftToExponent, target]
  exact Prod.ext halved rfl

/-- Scaled numbers are shifted until they have 53 bits. -/
theorem shiftToTargetExponent_of_scaled
    (positive : 0 < number)
    (enough : 52 ≤ number.log2 + scale) :
    shiftToTargetExponent Format.binary64 (number * 2 ^ scale) (-scale) .exact =
      ((ExtendedMantissa.mk (number * 2 ^ scale) false false) >>> (number.log2 + scale - 52),
        (number.log2 : Int) - 52) := by
  have target : (Format.binary64.targetExponent
      (totalExponent (number * 2 ^ scale) (-scale)) - -scale).toNat =
        number.log2 + scale - 52 := by
    rw [targetExponent_eq, totalExponent, log2_mul_two_pow positive]
    omega
  rw [shiftToTargetExponent, shiftToExponent, target]
  refine Prod.ext rfl ?_
  change (-scale : Int) + (number.log2 + scale - 52 : Nat) = _
  omega

/-- What is rounded has the significand and the exponent that it is shifted to, first and after
its last bit was rounded. -/
theorem roundWithAccuracy_eq_finite
    {significand before after : Nat}
    {exponent : Int}
    {extended final : ExtendedMantissa}
    {exponentBefore exponentAfter : Int}
    (shifts : shiftToTargetExponent Format.binary64 significand exponent .exact =
      (extended, exponentBefore))
    (rounds : extended.roundedMantissa = before)
    (shiftsAgain : shiftToTargetExponent Format.binary64 before exponentBefore .exact =
      (final, exponentAfter))
    (isFinal : final.mantissa = after)
    (positive : 0 < after) :
    roundWithAccuracy Format.binary64 .positive significand exponent .exact =
      .finite .positive after exponentAfter positive := by
  subst rounds isFinal
  simp only [roundWithAccuracy, shifts, shiftsAgain, dif_neg (Nat.ne_of_gt positive)]

/-- Numbers below `2 ^ 53` are rounded to themselves, with 53 significant bits. -/
theorem roundWithAccuracy_of_small
    (positive : 0 < number)
    (small : number < 2 ^ 53)
    (enough : 52 ≤ number.log2 + scale) :
    roundWithAccuracy Format.binary64 .positive (number * 2 ^ scale) (-scale) .exact =
      .finite .positive (number * 2 ^ (52 - number.log2)) (number.log2 - 52)
        (Nat.mul_pos positive (by positivity)) := by
  have short : number.log2 < 53 := (Nat.log2_lt (Nat.ne_of_gt positive)).2 small
  have regroup : number * 2 ^ scale =
      number * 2 ^ (52 - number.log2) * 2 ^ (number.log2 + scale - 52) := by
    rw [Nat.mul_assoc, ← Nat.pow_add]
    congr 2
    omega
  have shifts := shiftToTargetExponent_of_scaled positive enough
  have full : (number * 2 ^ (52 - number.log2)).log2 = 52 := by
    rw [log2_mul_two_pow positive]
    omega
  refine roundWithAccuracy_eq_finite shifts ?_
    (shiftToTargetExponent_of_full full (by omega)) rfl _
  rw [regroup, shiftRight_of_scaled]
  rfl

/-- Greater numbers are rounded to numbers with 53 significant bits and an exponent. -/
theorem roundWithAccuracy_of_large
    (large : 2 ^ 53 ≤ number)
    (enough : 52 ≤ number.log2 + scale) :
    ∃ significand exponent, ∃ positive : 0 < significand,
      roundWithAccuracy Format.binary64 .positive (number * 2 ^ scale) (-scale) .exact =
        .finite .positive significand exponent positive ∧
      significand.log2 = 52 ∧ 1 ≤ exponent := by
  have positive : 0 < number := Nat.lt_of_lt_of_le (by positivity) large
  have long : 53 ≤ number.log2 := (Nat.le_log2 (Nat.ne_of_gt positive)).2 large
  have shifts := shiftToTargetExponent_of_scaled positive enough
  set extended := (ExtendedMantissa.mk (number * 2 ^ scale) false false) >>>
    (number.log2 + scale - 52) with isExtended
  have bounds : 2 ^ 52 ≤ extended.mantissa ∧ extended.mantissa < 2 ^ 53 := by
    have scaled : number * 2 ^ scale ≠ 0 := Nat.ne_of_gt (Nat.mul_pos positive (by positivity))
    have length := (Nat.log2_eq_iff scaled).1 (log2_mul_two_pow positive scale)
    rw [isExtended, mantissa_shiftRight, Nat.le_div_iff_mul_le (by positivity),
      Nat.div_lt_iff_lt_mul (by positivity), ← Nat.pow_add, ← Nat.pow_add]
    constructor
    · convert length.1 using 2
      omega
    · convert length.2 using 2
      omega
  have rounded := roundedMantissa_bounds extended
  by_cases carries : extended.roundedMantissa = 2 ^ 53
  · exact ⟨2 ^ 52, _, by positivity, roundWithAccuracy_eq_finite shifts carries
      (shiftToTargetExponent_of_carry (by omega)) rfl (by positivity), Nat.log2_two_pow, by omega⟩
  · have positiveToo : 0 < extended.roundedMantissa := by omega
    have full : extended.roundedMantissa.log2 = 52 := by
      rw [Nat.log2_eq_iff (Nat.ne_of_gt positiveToo)]
      omega
    exact ⟨_, _, positiveToo, roundWithAccuracy_eq_finite shifts rfl
      (shiftToTargetExponent_of_full full (by omega)) rfl positiveToo, full, by omega⟩

/-! ## Doubles of whole numbers -/

/-- Rounding a number below `2 ^ 53` gives it 53 significant bits. -/
theorem ofNat_of_small
    (positive : 0 < number)
    (small : number < 2 ^ 53) :
    UnpackedFloat.ofNat Format.binary64 number =
      .finite .positive (number * 2 ^ (52 - number.log2)) (number.log2 - 52)
        (Nat.mul_pos positive (by positivity)) := by
  have short : number.log2 < 53 := (Nat.log2_lt (Nat.ne_of_gt positive)).2 small
  have isPositive : compare (number : Int) 0 = .gt :=
    Int.compare_eq_gt.2 (Int.natCast_pos.2 positive)
  have lowered : decreaseExponent number 0
      (Format.binary64.targetExponent (totalExponent number 0)) =
        (number * 2 ^ (52 - number.log2), -((52 - number.log2 : Nat) : Int)) := by
    have target : (0 - Format.binary64.targetExponent (totalExponent number 0)).toNat =
        52 - number.log2 := by
      rw [targetExponent_eq, totalExponent]
      omega
    rw [decreaseExponent, target, Nat.shiftLeft_eq, Int.zero_sub]
  simp only [UnpackedFloat.ofNat, UnpackedFloat.ofInt, UnpackedFloat.normalize, isPositive,
    Int.toNat_natCast, UnpackedFloat.round, lowered]
  exact roundWithAccuracy_of_small positive small (by omega)

/-- The double nearest to a whole number below `2 ^ 53` is unpacked to it. -/
theorem unpack_ofScientific_of_small
    (positive : 0 < number)
    (small : number < 2 ^ 53) :
    (Float.ofScientific number false 0).toModel.unpack =
      .finite .positive (number * 2 ^ (52 - number.log2)) (number.log2 - 52)
        (Nat.mul_pos positive (by positivity)) := by
  have short : number.log2 < 53 := (Nat.log2_lt (Nat.ne_of_gt positive)).2 small
  have full : (number * 2 ^ (52 - number.log2)).log2 = 52 := by
    rw [log2_mul_two_pow positive]
    omega
  have isWord : number.toUInt64.toNat = number :=
    Nat.mod_eq_of_lt (Nat.lt_trans small (by norm_num))
  have converted : number.toUInt64.toFloat.toModel.unpack =
      .finite .positive (number * 2 ^ (52 - number.log2)) (number.log2 - 52)
        (Nat.mul_pos positive (by positivity)) := by
    change (Float.Model.pack (UnpackedFloat.ofNat Format.binary64 number.toUInt64.toNat)).unpack = _
    rw [isWord, ofNat_of_small positive small]
    exact unpack_pack_of_fits _ full (by omega) (by omega)
  have one : (Float.exactlyRepresentablePowersOfTen[0]).toModel.unpack =
      .finite .positive (2 ^ 52) (-52) (by positivity) := rfl
  have multiplied : (Float.ofScientific number false 0).toModel.unpack =
      (Float.Model.pack (UnpackedFloat.mul Format.binary64
        number.toUInt64.toFloat.toModel.unpack
        (Float.exactlyRepresentablePowersOfTen[0]).toModel.unpack)).unpack := by
    rw [Float.ofScientific, dif_pos ⟨small, by omega⟩]
    rfl
  have scaled : roundWithAccuracy Format.binary64 .positive
      (number * 2 ^ (52 - number.log2) * 2 ^ 52) ((number.log2 : Int) - 52 + -52) .exact =
        .finite .positive (number * 2 ^ (52 - number.log2)) (number.log2 - 52)
          (Nat.mul_pos positive (by positivity)) := by
    have exponent : (number.log2 : Int) - 52 + -52 = -(52 - number.log2 + 52 : Nat) := by omega
    rw [exponent, Nat.mul_assoc, ← Nat.pow_add]
    exact roundWithAccuracy_of_small positive small (by omega)
  rw [multiplied, converted, one]
  change (Float.Model.pack (roundWithAccuracy Format.binary64 .positive _ _ .exact)).unpack = _
  rw [scaled]
  exact unpack_pack_of_fits _ full (by omega) (by omega)

/-- Without a power of ten a number is rounded as it is. -/
theorem ofScientific_of_pos
    (positive : 0 < number) :
    UnpackedFloat.ofScientific Format.binary64 number (Int.ofNat 0) =
      roundWithAccuracy Format.binary64 .positive (number * 2 ^ 53) (-(53 : Nat)) .exact := by
  have notHuge : ¬Int.ofNat 0 > 2 ^ Format.binary64.exponentBits := by decide
  have notTiny : ¬Int.ofNat 0 < -((2 ^ Format.binary64.exponentBits : Int) + number.log2) := by
    change ¬(0 : Int) < -(2048 + number.log2)
    omega
  have onePower : 10 ^ (Int.ofNat 0).toNat = 1 := rfl
  rw [UnpackedFloat.ofScientific, dif_neg (Nat.ne_of_gt positive), if_neg notHuge,
    if_neg notTiny, if_pos (by decide)]
  simp only [UnpackedFloat.mul, onePower, Nat.mul_one, Nat.shiftLeft_eq]
  rfl

/-- The double nearest to a greater number is one with 53 significant bits and an exponent, or
infinite. -/
theorem unpack_ofScientific_of_large
    (large : 2 ^ 53 ≤ number) :
    (∃ significand exponent, ∃ positive : 0 < significand,
      (Float.ofScientific number false 0).toModel.unpack =
        .finite .positive significand exponent positive ∧
      significand.log2 = 52 ∧ 1 ≤ exponent) ∨
    (Float.ofScientific number false 0).toModel.unpack = .infinity .positive := by
  have notSmall : ¬(number < 2 ^ 53 ∧ 0 ≤ 22) := by omega
  have positive : 0 < number := Nat.lt_of_lt_of_le (by positivity) large
  have long : 53 ≤ number.log2 := (Nat.le_log2 (Nat.ne_of_gt positive)).2 large
  obtain ⟨significand, exponent, nonzero, rounds, full, more⟩ :=
    roundWithAccuracy_of_large large (by omega : 52 ≤ number.log2 + 53)
  have modelled : (Float.ofScientific number false 0).toModel =
      Float.Model.pack (.finite .positive significand exponent nonzero) := by
    rw [Float.ofScientific, dif_neg notSmall]
    simp only [Bool.false_eq_true, if_false]
    rw [Float.Model.ofScientific, ofScientific_of_pos positive, rounds]
  rw [modelled]
  by_cases fits : exponent ≤ 971
  · exact Or.inl ⟨significand, exponent, nonzero,
      unpack_pack_of_fits nonzero full (by omega) fits, full, more⟩
  · exact Or.inr (unpack_pack_of_overflow nonzero (by omega))

/-! ## Whole doubles -/

/-- A double is a whole number. -/
def IsWhole (x : Float) (number : Nat) : Prop :=
  ∃ binary, Binary.ofFloat? x = some binary ∧ binary.negative = false ∧
    binary.whole? = some number

theorem whole?_of_zero
    (negative : Bool)
    (exponent : Int) :
    (Binary.mk negative 0 exponent).whole? = some 0 := by
  rw [Binary.whole?]
  split <;> simp

theorem whole?_of_small
    (positive : 0 < number)
    (small : number < 2 ^ 53)
    (negative : Bool) :
    (Binary.mk negative (number * 2 ^ (52 - number.log2)) (number.log2 - 52)).whole? =
      some number := by
  have short : number.log2 < 53 := (Nat.log2_lt (Nat.ne_of_gt positive)).2 small
  rw [Binary.whole?]
  split
  next isNatural =>
    have noShift : 52 - number.log2 = 0 := by
      simp only at isNatural
      omega
    have noPower : ((number.log2 : Int) - 52).toNat = 0 := by omega
    simp [noShift, noPower]
  next => simp

theorem le_of_whole?_of_large
    {negative : Bool}
    {significand : Nat}
    {exponent : Int}
    (full : significand.log2 = 52)
    (more : 1 ≤ exponent)
    (isWhole : (Binary.mk negative significand exponent).whole? = some number) :
    2 ^ 53 ≤ number := by
  have nonzero : significand ≠ 0 := by
    rintro rfl
    contradiction
  have bound := ((Nat.log2_eq_iff nonzero).1 full).1
  have power : 2 ^ 1 ≤ 2 ^ exponent.toNat := Nat.pow_le_pow_right (by decide) (by omega)
  rw [Binary.whole?, if_pos (by simp only; omega)] at isWhole
  obtain rfl := Option.some.inj isWhole
  exact Nat.mul_le_mul bound power

/-- A double that is a whole number below `2 ^ 53` is nearest to no other whole number. -/
theorem isWhole_ofScientific_iff
    {whole : Nat}
    (small : whole < 2 ^ 53) :
    IsWhole (Float.ofScientific number false 0) whole ↔ number = whole := by
  rcases Nat.eq_zero_or_pos number with rfl | positive
  · have isZero : Binary.ofFloat? (Float.ofScientific 0 false 0) = some ⟨false, 0, -1074⟩ := rfl
    simp [IsWhole, isZero, whole?_of_zero]
  rcases Nat.lt_or_ge number (2 ^ 53) with isSmall | large
  · have isNumber := ofFloat?_of_unpack_eq_finite (unpack_ofScientific_of_small positive isSmall)
    have isPlus : (Sign.positive == Sign.negative) = false := rfl
    simp [IsWhole, isNumber, isPlus, whole?_of_small positive isSmall]
  · have isOther : number ≠ whole := by omega
    rw [iff_false_right isOther]
    rintro ⟨binary, isBinary, -, isWhole⟩
    obtain ⟨significand, exponent, nonzero, unpacked, full, more⟩ | unpacked :=
      unpack_ofScientific_of_large large
    · rw [ofFloat?_of_unpack_eq_finite unpacked] at isBinary
      obtain rfl := Option.some.inj isBinary
      have bound := le_of_whole?_of_large full more isWhole
      omega
    · rw [ofFloat?_of_unpack_eq_infinity unpacked] at isBinary
      contradiction

end CloudPlan.Number
