import CloudPlan.Text.Digits

/-!
# Reading numbers

Decimal text as the nearest double.
-/

namespace CloudPlan.Number

open CloudPlan.Text

/-- The double nearest to `digits * 10 ^ exponent`, infinite beyond the range. -/
def nearest (digits : Nat) (exponent : Int) : Float :=
  let size : Int := (Nat.toDigits 10 digits).length + exponent
  if digits = 0 ∨ size < -330 then
    0.0
  else if 310 < size then
    1.0 / 0.0
  else if 0 ≤ exponent then
    Float.ofScientific digits false exponent.toNat
  else
    Float.ofScientific digits true (-exponent).toNat

/-- A sign at the front of a text, and the text after it. -/
def splitSign : List Char → Bool × List Char
  | '+' :: rest => (false, rest)
  | '-' :: rest => (true, rest)
  | chars => (false, chars)

/-- The exponent that a text after the mark denotes: a sign, if any, and digits. -/
def exponent? (chars : List Char) : Option Int :=
  match splitSign chars with
  | (negative, digits) =>
    (natural? digits).map fun value => if negative then -value else value

/-- A magnitude: digits with at most one point among them, and an exponent, if any. -/
def magnitude? (chars : List Char) : Option Float := do
  let whole := chars.takeWhile Char.isDigit
  let afterWhole := chars.dropWhile Char.isDigit
  let (fraction, rest) := match afterWhole with
    | '.' :: more => (more.takeWhile Char.isDigit, more.dropWhile Char.isDigit)
    | more => ([], more)
  guard (whole ++ fraction ≠ [])
  let exponent ← match rest with
    | [] => some 0
    | 'e' :: more => exponent? more
    | 'E' :: more => exponent? more
    | _ => none
  return nearest (readDigits 0 (whole ++ fraction)) (exponent - fraction.length)

/-- The double that a text denotes: a decimal, or a word for infinity or no number. -/
def float? (chars : List Char) : Option Float :=
  match splitSign chars with
  | (negative, unsigned) =>
    let word := String.ofList (unsigned.map Char.toLower)
    let magnitude : Option Float :=
      if word = "inf" ∨ word = "infinity" then some (1.0 / 0.0)
      else if word = "nan" then some (0.0 / 0.0)
      else magnitude? unsigned
    magnitude.map fun x => if negative then -x else x

end CloudPlan.Number
