import CloudPlan.Number.Shortest

/-!
# Layouts of numbers

How the digits of a double are laid out as text.
-/

namespace CloudPlan.Number

/-- The choices that a format of numbers makes. -/
structure Layout where
  /-- The digits are written without an exponent, given the power of ten of the first. -/
  isPlain : Int → Bool
  /-- What follows a whole number written without an exponent. -/
  wholeEnd : String
  /-- The text of the number that is none. -/
  notANumber : String
  /-- The text of positive infinity. -/
  infinite : String

namespace Layout

/-- Digits without an exponent. -/
def plain (layout : Layout) (digits : List Char) (exponent : Int) : List Char :=
  if 0 ≤ exponent then
    digits ++ List.replicate exponent.toNat '0' ++ layout.wholeEnd.toList
  else
    let places := (-exponent).toNat
    if places < digits.length then
      digits.take (digits.length - places) ++ '.' :: digits.drop (digits.length - places)
    else
      '0' :: '.' :: List.replicate (places - digits.length) '0' ++ digits

/-- Digits with an exponent after the first of them. -/
def scientific (digits : List Char) (power : Int) : List Char :=
  let tail := digits.drop 1
  digits.take 1 ++ (if tail.isEmpty then [] else '.' :: tail) ++
    ['e', if power < 0 then '-' else '+'] ++ Nat.toDigits 10 power.natAbs

/-- The text of a double. -/
def write (layout : Layout) (x : Float) : String :=
  match Binary.ofFloat? x with
  | some b =>
    let decimal := shortest b
    let digits := Nat.toDigits 10 decimal.digits
    let power := digits.length + decimal.exponent - 1
    String.ofList <|
      (if b.negative then ['-'] else []) ++
        if layout.isPlain power then
          layout.plain digits decimal.exponent
        else
          scientific digits power
  | none =>
    if x.isNaN then
      layout.notANumber
    else
      (if (Binary.fields x).1 then "-" else "") ++ layout.infinite

end Layout

end CloudPlan.Number
