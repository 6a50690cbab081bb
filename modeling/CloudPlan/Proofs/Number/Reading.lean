import CloudPlan.Proofs.Number.Whole
import CloudPlan.Proofs.Text.Digits

/-!
# Digits as doubles

Digits without a point or an exponent, with a plus sign at most in front of them, are read as the
double nearest to the whole number that they spell.
-/

namespace CloudPlan.Number

open CloudPlan.Text

variable {number whole : Nat} {digits : List Char}

/-- Only digits, at least one. -/
def IsDigits (digits : List Char) : Prop :=
  digits ≠ [] ∧ ∀ c ∈ digits, c.isDigit = true

theorem natural?_eq_some_iff :
    natural? digits = some number ↔ IsDigits digits ∧ readDigits 0 digits = number := by
  have isDigits : digits ≠ [] ∧ digits.all Char.isDigit = true ↔ IsDigits digits :=
    and_congr_right fun _ => List.all_eq_true
  simp only [natural?, isDigits, Option.ite_none_right_eq_some, Option.some_inj]

/-- A text that is read as a machine word spells it with digits, and a plus sign at most. -/
theorem word?_eq_some_iff
    {content : String} :
    word? content = some number ↔
      ∃ digits, IsDigits digits ∧ (content.toList = digits ∨ content.toList = '+' :: digits) ∧
        readDigits 0 digits = number ∧ number < wordBound := by
  have reads : ∀ digits : List Char,
      (natural? digits >>= fun value => guard (value < wordBound) >>= fun _ => some value) =
        some number ↔ IsDigits digits ∧ readDigits 0 digits = number ∧ number < wordBound := by
    intro digits
    simp only [Option.bind_eq_bind, Option.bind_eq_some_iff, natural?_eq_some_iff,
      Option.guard_eq_some']
    constructor
    · rintro ⟨value, ⟨areDigits, isValue⟩, _, fits, same⟩
      obtain rfl := Option.some.inj same
      exact ⟨areDigits, isValue, fits⟩
    · rintro ⟨areDigits, isValue, fits⟩
      exact ⟨number, ⟨areDigits, isValue⟩, (), fits, rfl⟩
  unfold word?
  split
  next rest signed =>
    rw [signed]
    refine (reads rest).trans ⟨?_, ?_⟩
    · rintro ⟨areDigits, isNumber⟩
      exact ⟨rest, areDigits, Or.inr rfl, isNumber⟩
    · rintro ⟨digits, areDigits, rfl | isRest, isNumber⟩
      · exact absurd (areDigits.2 '+' List.mem_cons_self) (by decide)
      · obtain ⟨-, rfl⟩ := List.cons.inj isRest
        exact ⟨areDigits, isNumber⟩
  next unsigned =>
    refine (reads content.toList).trans ⟨?_, ?_⟩
    · rintro ⟨areDigits, isNumber⟩
      exact ⟨_, areDigits, Or.inl rfl, isNumber⟩
    · rintro ⟨digits, areDigits, rfl | isRest, isNumber⟩
      · exact ⟨areDigits, isNumber⟩
      · exact absurd isRest (unsigned digits)

/-! ## The nearest double -/

theorem not_isWhole_infinity :
    ¬IsWhole (1.0 / 0.0) whole := by
  have isInfinite : Binary.ofFloat? (1.0 / 0.0) = none := rfl
  rintro ⟨binary, isBinary, -⟩
  rw [isInfinite] at isBinary
  contradiction

/-- The double nearest to a whole number is a whole number below `2 ^ 53` only if it is this
number. -/
theorem isWhole_nearest_iff
    (small : whole < 2 ^ 53) :
    IsWhole (nearest number 0) whole ↔ number = whole := by
  rcases Nat.eq_zero_or_pos number with rfl | positive
  · have isZero : Binary.ofFloat? 0.0 = some ⟨false, 0, -1074⟩ := rfl
    simp [nearest, IsWhole, isZero, whole?_of_zero]
  have notZero : ¬(number = 0 ∨ ((Nat.toDigits 10 number).length : Int) + 0 < -330) := by omega
  by_cases long : 310 < ((Nat.toDigits 10 number).length : Int) + 0
  · have isInfinite : nearest number 0 = 1.0 / 0.0 := by
      rw [nearest, if_neg notZero, if_pos long]
    have isOther : number ≠ whole := by
      rintro rfl
      have short : (Nat.toDigits 10 number).length ≤ 16 :=
        (Nat.length_toDigits_le_iff (by decide) (by decide)).2 (Nat.lt_trans small (by norm_num))
      omega
    rw [isInfinite, iff_false_right isOther]
    exact not_isWhole_infinity
  · have isNearest : nearest number 0 = Float.ofScientific number false 0 := by
      rw [nearest, if_neg notZero, if_neg long, if_pos (by decide)]
      rfl
    rw [isNearest]
    exact isWhole_ofScientific_iff small

/-! ## Reading -/

theorem toLower_of_isDigit
    {c : Char}
    (isDigit : c.isDigit = true) :
    c.toLower = c := by
  have notUpper : ¬(c.val ≥ 'A'.val ∧ c.val ≤ 'Z'.val) := by
    have below : c.val ≤ '9'.val := by
      rw [Char.isDigit, Bool.and_eq_true, decide_eq_true_eq, decide_eq_true_eq] at isDigit
      exact isDigit.2
    intro bounds
    exact absurd (UInt32.le_trans bounds.1 below) (by decide)
  rw [Char.toLower, dif_neg notUpper]

/-- Digits are no word. -/
theorem ofList_map_toLower_ne
    (allDigits : ∀ c ∈ digits, c.isDigit = true)
    (word : String)
    (hasLetter : ∃ c ∈ word.toList, c.isDigit = false) :
    String.ofList (digits.map Char.toLower) ≠ word := by
  rintro rfl
  obtain ⟨c, member, isLetter⟩ := hasLetter
  rw [String.toList_ofList, List.mem_map] at member
  obtain ⟨digit, isMember, rfl⟩ := member
  rw [toLower_of_isDigit (allDigits digit isMember), allDigits digit isMember] at isLetter
  contradiction

theorem magnitude?_of_isDigits
    (areDigits : IsDigits digits) :
    magnitude? digits = some (nearest (readDigits 0 digits) 0) := by
  have taken : digits.takeWhile Char.isDigit = digits :=
    List.takeWhile_eq_self_iff.2 areDigits.2
  have dropped : digits.dropWhile Char.isDigit = [] :=
    List.dropWhile_eq_nil_iff.2 areDigits.2
  simp only [magnitude?, taken, dropped]
  simp [areDigits.1, guard]

theorem float?_of_unsigned
    {chars : List Char}
    (areDigits : IsDigits digits)
    (unsigned : splitSign chars = (false, digits)) :
    float? chars = some (nearest (readDigits 0 digits) 0) := by
  have notWord := ofList_map_toLower_ne areDigits.2
  have notInf := notWord "inf" ⟨'i', by decide, by decide⟩
  have notInfinity := notWord "infinity" ⟨'i', by decide, by decide⟩
  have notNan := notWord "nan" ⟨'n', by decide, by decide⟩
  simp only [float?, unsigned, notInf, notInfinity, notNan, magnitude?_of_isDigits areDigits,
    or_self, if_false]
  rfl

/-- Digits are read as the double nearest to what they spell. -/
theorem float?_of_isDigits
    (areDigits : IsDigits digits) :
    float? digits = some (nearest (readDigits 0 digits) 0) := by
  apply float?_of_unsigned areDigits
  obtain ⟨first, rest, rfl⟩ := List.exists_cons_of_ne_nil areDigits.1
  have isDigit := areDigits.2 first List.mem_cons_self
  unfold splitSign
  split
  next equal =>
    obtain ⟨rfl, -⟩ := List.cons.inj equal
    contradiction
  next equal =>
    obtain ⟨rfl, -⟩ := List.cons.inj equal
    contradiction
  next => rfl

/-- So they are behind a plus sign. -/
theorem float?_of_plus_isDigits
    (areDigits : IsDigits digits) :
    float? ('+' :: digits) = some (nearest (readDigits 0 digits) 0) :=
  float?_of_unsigned areDigits rfl

end CloudPlan.Number
