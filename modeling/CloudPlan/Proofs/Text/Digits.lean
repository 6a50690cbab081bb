import CloudPlan.Text.Blank
import CloudPlan.Text.Digits
import Mathlib.Data.Option.Basic

/-!
# Numbers as texts

A number is read back from its decimal digits when it fits a machine word.  Nothing but digits,
and a plus sign in front of them, is read as a number.
-/

namespace CloudPlan.Text

theorem readDigits_eq_ofDigitChars (start : Nat) (digits : List Char) :
    readDigits start digits = Nat.ofDigitChars 10 digits start := by
  unfold readDigits Nat.ofDigitChars
  congr 1
  funext value c
  rw [digitValue, Nat.mul_comm]

theorem natural?_toDigits (count : Nat) : natural? (Nat.toDigits 10 count) = some count := by
  have allDigits : (Nat.toDigits 10 count).all Char.isDigit = true := by
    rw [List.all_eq_true]
    intro c member
    exact Nat.isDigit_of_mem_toDigits (by decide) (by decide) member
  unfold natural?
  rw [if_pos ⟨Nat.toDigits_ne_nil, allDigits⟩, readDigits_eq_ofDigitChars]
  simp

theorem toList_toString (count : Nat) : (toString count).toList = Nat.toDigits 10 count := by
  rw [Nat.toString_eq_repr, Nat.toList_repr]

theorem toList_toString_ne_nil (count : Nat) : (toString count).toList ≠ [] := by
  rw [toList_toString]
  exact Nat.toDigits_ne_nil

theorem isBlank_of_isDigit
    {c : Char}
    (isDigit : c.isDigit = true) :
    isBlank c = false := by
  have bounds : 48 ≤ c.toNat ∧ c.toNat ≤ 57 := by
    simpa [Char.isDigit, UInt32.le_iff_toNat_le] using isDigit
  simp only [isBlank, Bool.or_eq_false_iff, Bool.and_eq_false_iff, decide_eq_false_iff_not,
    beq_eq_false_iff_ne]
  omega

/-- There are no blanks in the digits of a number. -/
theorem isBlank_of_mem_toString
    {c : Char}
    {count : Nat}
    (member : c ∈ (toString count).toList) :
    isBlank c = false := by
  rw [toList_toString] at member
  exact isBlank_of_isDigit (Nat.isDigit_of_mem_toDigits (by decide) (by decide) member)

theorem isBlankText_toString (count : Nat) : isBlankText (toString count) = false := by
  obtain ⟨digit, member⟩ := List.exists_mem_of_ne_nil _ (toList_toString_ne_nil count)
  exact List.all_eq_false.2 ⟨digit, member, by simp [isBlank_of_mem_toString member]⟩

/-- The digits of a number are read as the number if it fits a machine word, and else not at
all. -/
theorem word?_toString (count : Nat) :
    word? (toString count) = if count < wordBound then some count else none := by
  have noSign : ∀ rest, Nat.toDigits 10 count ≠ '+' :: rest := by
    intro rest signed
    have isDigit : Char.isDigit '+' = true := by
      apply Nat.isDigit_of_mem_toDigits (b := 10) (n := count) (by decide) (by decide)
      rw [signed]
      exact List.mem_cons_self
    contradiction
  unfold word?
  rw [toList_toString]
  split
  next rest signed => exact absurd signed (noSign rest)
  next =>
    dsimp only
    rw [natural?_toDigits]
    by_cases fits : count < wordBound
    · simp [guard, fits]
    · simp [guard, fits]

theorem isDigit_of_natural?
    {chars : List Char}
    {value : Nat}
    (read : natural? chars = some value) :
    ∀ c ∈ chars, c.isDigit = true := by
  unfold natural? at read
  split at read
  next digits => exact List.all_eq_true.1 digits.2
  next => contradiction

/-- What is read as a number is made of digits, with a plus sign at most. -/
theorem isDigit_or_plus_of_word?
    {text : String}
    {value : Nat}
    (read : word? text = some value) :
    ∀ c ∈ text.toList, c.isDigit = true ∨ c = '+' := by
  unfold word? at read
  obtain ⟨number, isNumber, _⟩ := Option.bind_eq_some_iff.1 read
  have digits := isDigit_of_natural? isNumber
  intro c member
  split at digits
  next rest signed =>
    rw [signed] at member
    rcases List.mem_cons.1 member with rfl | inDigits
    · exact Or.inr rfl
    · exact Or.inl (digits c inDigits)
  next => exact Or.inl (digits c member)

end CloudPlan.Text
