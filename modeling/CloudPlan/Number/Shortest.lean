import CloudPlan.Number.Binary

/-!
# Shortest decimals

The fewest decimal digits that read back as a given double, and among those the
ones nearest to it.
-/

namespace CloudPlan.Number

/-- The number `digits * 10 ^ exponent`. -/
structure Decimal where
  /-- The digits, as one number. -/
  digits : Nat
  /-- The power of ten that scales them. -/
  exponent : Int

namespace Decimal

/-- How many decimal digits a positive number has. -/
def digitCount (n : Nat) : Nat := (Nat.toDigits 10 n).length

/-- The decimal with its trailing zeros moved into the exponent. -/
def stripZeros : Nat → Decimal → Decimal
  | 0, d => d
  | fuel + 1, d =>
    if d.digits ≠ 0 ∧ d.digits % 10 = 0 then
      stripZeros fuel ⟨d.digits / 10, d.exponent + 1⟩
    else
      d

end Decimal

/--
The reals that read back as a positive double: from `low / unit` to
`high / unit`, the ends included when `closed` holds, around `value / unit`.
-/
structure Rounding where
  /-- The lower end. -/
  low : Nat
  /-- The double itself. -/
  value : Nat
  /-- The upper end. -/
  high : Nat
  /-- The common denominator. -/
  unit : Nat
  /-- Whether the ends read back too. -/
  closed : Bool

namespace Rounding

/-- The reals that read back as `significand * 2 ^ exponent`. -/
def ofBinary (b : Binary) : Rounding :=
  let scale := Nat.pow 2 b.exponent.toNat
  let lower := if b.significand = Nat.pow 2 52 ∧ Binary.leastExponent < b.exponent then 1 else 2
  { low := (4 * b.significand - lower) * scale
    value := 4 * b.significand * scale
    high := (4 * b.significand + 2) * scale
    unit := 4 * Nat.pow 2 (-b.exponent).toNat
    closed := b.significand % 2 = 0 }

/-- The ends and the value times `10 ^ -exponent`. -/
def scaled (r : Rounding) (exponent : Int) : Rounding :=
  let up := Nat.pow 10 (-exponent).toNat
  { r with
    low := r.low * up
    value := r.value * up
    high := r.high * up
    unit := r.unit * Nat.pow 10 exponent.toNat }

/-- A whole number reads back. -/
def holds (r : Rounding) (n : Nat) : Bool :=
  let point := n * r.unit
  (r.low < point && point < r.high) || (r.closed && (r.low == point || point == r.high))

/-- The whole number that reads back and is nearest to the value, if one does. -/
def nearest? (r : Rounding) : Option Nat :=
  let down := r.value / r.unit
  let nearerUp := r.unit < 2 * (r.value % r.unit)
  match r.holds down, r.holds (down + 1) with
  | true, true => some (if nearerUp then down + 1 else down)
  | true, false => some down
  | false, true => some (down + 1)
  | false, false => none

/-- A power of ten below every positive double, as an exponent without its sign. -/
def reach : Nat := 400

/-- How many digits the value has before the point; not positive when it starts with zeros. -/
def integerDigits (r : Rounding) : Int :=
  (Decimal.digitCount (r.value * Nat.pow 10 reach / r.unit) : Int) - reach

/-- The shortest decimal with a given number of digits, if one reads back. -/
def decimal? (r : Rounding) (count : Nat) : Option Decimal :=
  let exponent := r.integerDigits - count
  ((r.scaled exponent).nearest?).map (⟨·, exponent⟩)

end Rounding

/-- No double needs more digits than this. -/
def mostDigits : Nat := 17

/-- The shortest decimal that reads back as the magnitude of a binary number. -/
def shortest (b : Binary) : Decimal :=
  if b.significand = 0 then
    ⟨0, 0⟩
  else
    let rounding := Rounding.ofBinary b
    match (List.range mostDigits).findSome? fun n => rounding.decimal? (n + 1) with
    | some decimal => decimal.stripZeros mostDigits
    | none => ⟨0, 0⟩

end CloudPlan.Number
