/-!
# Binary numbers

A finite double as a sign, a natural significand and a power of two.  Everything
that has to be exact about doubles is done on this form.
-/

namespace CloudPlan.Number

/-- The number `± significand * 2 ^ exponent`. -/
structure Binary where
  /-- Whether the sign is a minus. -/
  negative : Bool
  /-- The significand. -/
  significand : Nat
  /-- The power of two that scales the significand. -/
  exponent : Int

namespace Binary

/-- The least exponent of a double. -/
def leastExponent : Int := -1074

/-- The sign, exponent field and fraction field of a double. -/
def fields (x : Float) : Bool × Nat × Nat :=
  let bits := x.toBits.toNat
  (bits / Nat.pow 2 63 == 1, bits / Nat.pow 2 52 % Nat.pow 2 11, bits % Nat.pow 2 52)

/-- A finite double in binary form. -/
def ofFloat? (x : Float) : Option Binary :=
  match fields x with
  | (negative, exponent, fraction) =>
    if exponent = 2047 then
      none
    else if exponent = 0 then
      some ⟨negative, fraction, leastExponent⟩
    else
      some ⟨negative, Nat.pow 2 52 + fraction, exponent - 1075⟩

/--
The double that equals a binary number.  The number must be representable: its
lowest set bit lies within the 53 bits below its highest, and not below the least
exponent.
-/
def toFloat (b : Binary) : Float :=
  let sign := if b.negative then Nat.pow 2 63 else 0
  if b.significand = 0 then
    Float.ofBits (UInt64.ofNat sign)
  else
    let top : Int := b.significand.log2 + b.exponent
    if top < -1022 then
      Float.ofBits (UInt64.ofNat
        (sign + b.significand * Nat.pow 2 (b.exponent - leastExponent).toNat))
    else
      let shift : Int := 52 - b.significand.log2
      let significand := b.significand * Nat.pow 2 shift.toNat / Nat.pow 2 (-shift).toNat
      Float.ofBits (UInt64.ofNat
        (sign + (top + 1023).toNat * Nat.pow 2 52 + (significand - Nat.pow 2 52)))

/-- The number times `2 ^ -least`, a whole number when `least` is at most its exponent. -/
def unitsOf (least : Int) (b : Binary) : Nat :=
  b.significand * Nat.pow 2 (b.exponent - least).toNat

/-- The natural number that the magnitude is, if it has no fraction. -/
def whole? (b : Binary) : Option Nat :=
  if 0 ≤ b.exponent then
    some (b.significand * Nat.pow 2 b.exponent.toNat)
  else
    let unit := Nat.pow 2 (-b.exponent).toNat
    if b.significand % unit = 0 then some (b.significand / unit) else none

end Binary

/--
The remainder of division toward zero, exact, with the sign of the dividend.  The
divisor is not zero.
-/
def remainder (x y : Float) : Float :=
  match Binary.ofFloat? x, Binary.ofFloat? y with
  | some dividend, some divisor =>
    let least := min dividend.exponent divisor.exponent
    (Binary.mk dividend.negative
      (dividend.unitsOf least % divisor.unitsOf least) least).toFloat
  | some _, none => if y.isNaN then y else x
  | none, _ => 0.0 / 0.0

end CloudPlan.Number
