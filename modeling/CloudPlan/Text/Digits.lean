/-!
# Digits

Natural numbers as decimal digits, and back.
-/

namespace CloudPlan.Text

/-- The value of an ASCII digit. -/
def digitValue (c : Char) : Nat := c.toNat - '0'.toNat

/-- The number that the digits go on to, after those that gave `start`. -/
def readDigits (start : Nat) (digits : List Char) : Nat :=
  digits.foldl (fun value c => value * 10 + digitValue c) start

/-- The number that a text of nothing but digits, at least one, denotes. -/
def natural? (chars : List Char) : Option Nat :=
  if chars ≠ [] ∧ chars.all Char.isDigit then some (readDigits 0 chars) else none

/-- The value of a digit of either case in a base up to thirty-six. -/
def digitIn? (base : Nat) (c : Char) : Option Nat := do
  let value ←
    if c.isDigit then some (digitValue c)
    else if 'a' ≤ c ∧ c ≤ 'z' then some (c.toNat - 'a'.toNat + 10)
    else if 'A' ≤ c ∧ c ≤ 'Z' then some (c.toNat - 'A'.toNat + 10)
    else none
  guard (value < base)
  return value

/-- The number that digits in a base denote, of which there is at least one. -/
def naturalIn? (base : Nat) (digits : List Char) : Option Nat := do
  guard (digits ≠ [])
  digits.foldlM (fun value c => (digitIn? base c).map (value * base + ·)) 0

/-- The numbers below this bound fit a machine word. -/
def wordBound : Nat := Nat.pow 2 64

/-- The number that a text denotes: digits, with a plus sign allowed before them, below `2^64`. -/
def word? (text : String) : Option Nat := do
  let digits := match text.toList with
    | '+' :: rest => rest
    | chars => chars
  let value ← natural? digits
  guard (value < wordBound)
  return value

end CloudPlan.Text
