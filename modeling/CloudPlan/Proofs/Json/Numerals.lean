import CloudPlan.Json.Printer
import Mathlib.Data.List.Basic

/-!
# Numerals

The text of a number is not empty, and it is made of few characters: digits, signs, points
and exponents, and the letters of the null that stands for a double without a value.
-/

namespace CloudPlan.Json

/-- A character that the text of a number may hold. -/
def isNumeric (c : Char) : Bool :=
  c.isDigit || ['-', '+', '.', 'e', 'n', 'u', 'l'].contains c

/-- Characters are what a number may be written with, and there are some. -/
structure Numeral (chars : List Char) : Prop where
  numeric : ∀ c ∈ chars, isNumeric c = true
  nonempty : chars ≠ []

theorem numeric_of_all
    {chars : List Char}
    (all : chars.all isNumeric = true) :
    ∀ c ∈ chars, isNumeric c = true :=
  List.all_eq_true.1 all

theorem numeral_toDigits (n : Nat) : Numeral (Nat.toDigits 10 n) := by
  constructor
  case numeric =>
    intro c member
    rw [isNumeric, Nat.isDigit_of_mem_toDigits (by decide) (by decide) member, Bool.true_or]
  case nonempty => exact Nat.toDigits_ne_nil

namespace Numeral

variable {chars more : List Char}

theorem cons
    {c : Char}
    (isFirst : isNumeric c = true)
    (others : ∀ other ∈ more, isNumeric other = true) :
    Numeral (c :: more) :=
  ⟨List.forall_mem_cons.2 ⟨isFirst, others⟩, List.cons_ne_nil c more⟩

theorem append
    (numeral : Numeral chars)
    (others : ∀ other ∈ more, isNumeric other = true) :
    Numeral (chars ++ more) :=
  ⟨List.forall_mem_append.2 ⟨numeral.numeric, others⟩, List.append_ne_nil_of_left_ne_nil
    numeral.nonempty more⟩

theorem of_append
    (before : ∀ other ∈ chars, isNumeric other = true)
    (numeral : Numeral more) :
    Numeral (chars ++ more) :=
  ⟨List.forall_mem_append.2 ⟨before, numeral.numeric⟩, List.append_ne_nil_of_right_ne_nil
    chars numeral.nonempty⟩

end Numeral

theorem numeric_zeros (count : Nat) : ∀ c ∈ List.replicate count '0', isNumeric c = true := by
  intro c member
  rw [List.eq_of_mem_replicate member]
  decide

theorem numeral_plain
    {digits : List Char}
    (numeral : Numeral digits)
    (exponent : Int) :
    Numeral (numberLayout.plain digits exponent) := by
  have before (count : Nat) : ∀ c ∈ digits.take count, isNumeric c = true :=
    fun c member => numeral.numeric c (List.mem_of_mem_take member)
  have behind (count : Nat) : ∀ c ∈ digits.drop count, isNumeric c = true :=
    fun c member => numeral.numeric c (List.mem_of_mem_drop member)
  unfold Number.Layout.plain
  split
  · exact (numeral.append (numeric_zeros _)).append (numeric_of_all (by decide))
  · dsimp only
    split
    · exact .of_append (before _) (.cons (by decide) (behind _))
    · refine .cons (by decide) (List.forall_mem_cons.2 ⟨by decide, ?_⟩)
      exact List.forall_mem_append.2 ⟨numeric_zeros _, numeral.numeric⟩

theorem numeral_scientific
    {digits : List Char}
    (numeral : Numeral digits)
    (power : Int) :
    Numeral (Number.Layout.scientific digits power) := by
  have before (count : Nat) : ∀ c ∈ digits.take count, isNumeric c = true :=
    fun c member => numeral.numeric c (List.mem_of_mem_take member)
  have behind (count : Nat) : ∀ c ∈ digits.drop count, isNumeric c = true :=
    fun c member => numeral.numeric c (List.mem_of_mem_drop member)
  refine .of_append ?_ (numeral_toDigits power.natAbs)
  refine List.forall_mem_append.2 ⟨List.forall_mem_append.2 ⟨before 1, ?_⟩, ?_⟩
  · split
    · exact numeric_of_all rfl
    · exact List.forall_mem_cons.2 ⟨by decide, behind 1⟩
  · split <;> exact numeric_of_all (by decide)

/-- The text of every number is a numeral. -/
theorem numeral_write (number : Number) : Numeral number.write.toList := by
  have sign (negative : Bool) :
      ∀ c ∈ (if negative then ['-'] else []), isNumeric c = true := by
    cases negative <;> exact numeric_of_all (by decide)
  cases number with
  | integer value =>
      rw [Number.write, Int.toString_eq_repr, Int.repr_eq_if]
      split
      · rw [Nat.toList_repr]
        exact numeral_toDigits _
      · rw [String.toList_append, Nat.toList_repr]
        exact .of_append (numeric_of_all (by decide)) (numeral_toDigits _)
  | float value =>
      rw [Number.write, Number.Layout.write]
      split
      next b _ =>
        rw [String.toList_ofList]
        refine .of_append (sign b.negative) ?_
        split
        · exact numeral_plain (numeral_toDigits _) _
        · exact numeral_scientific (numeral_toDigits _) _
      next =>
        split
        · exact ⟨numeric_of_all (by decide), by decide⟩
        · rw [String.toList_append]
          refine .of_append ?_ ⟨numeric_of_all (by decide), by decide⟩
          split <;> exact numeric_of_all (by decide)

end CloudPlan.Json
