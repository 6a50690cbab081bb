import CloudPlan.Json.Tree
import CloudPlan.Text.Digits
import CloudPlan.Text.Utf8

/-!
# Reading JSON

Text as a document tree.  Every step of the reader takes at least one character,
so the length of the text bounds the number of steps.
-/

namespace CloudPlan.Json.Reader

open CloudPlan.Text

/-- The blanks of JSON: space, tab, line feed and carriage return. -/
def isBlank (c : Char) : Bool :=
  c == ' ' || c == '\t' || c == '\n' || c == '\r'

/-- The characters after the blanks. -/
def skip (chars : List Char) : List Char :=
  chars.dropWhile isBlank

/-! ## Texts -/

/-- The code that a one-letter escape stands for. -/
def escape? : Char → Option Nat
  | '"' => some 0x22
  | '\\' => some 0x5C
  | '/' => some 0x2F
  | 'b' => some 8
  | 'f' => some 12
  | 'n' => some 10
  | 'r' => some 13
  | 't' => some 9
  | _ => none

/-- The codes of a text up to its closing quote, and what follows the quote. -/
def codes : List Char → Option (List Nat × List Char)
  | [] => none
  | '"' :: rest => some ([], rest)
  | '\\' :: 'u' :: a :: b :: c :: d :: rest => do
    let code ← naturalIn? 16 [a, b, c, d]
    let (more, after) ← codes rest
    return (code :: more, after)
  | '\\' :: letter :: rest => do
    let code ← escape? letter
    let (more, after) ← codes rest
    return (code :: more, after)
  | c :: rest => do
    guard (0x20 ≤ c.toNat)
    let (more, after) ← codes rest
    return (c.toNat :: more, after)

/-- The first half of a character written as two escapes. -/
def isHigh (code : Nat) : Bool := 0xD800 ≤ code && code < 0xDC00

/-- The second half of a character written as two escapes. -/
def isLow (code : Nat) : Bool := 0xDC00 ≤ code && code < 0xE000

/-- The characters of codes, halves joined; a half on its own is no character. -/
def characters? : List Nat → Option (List Char)
  | [] => some []
  | [code] => if isHigh code || isLow code then none else some [Char.ofNat code]
  | code :: next :: rest =>
    if isHigh code then
      if isLow next then
        (characters? rest).map
          (Char.ofNat (0x10000 + (code - 0xD800) * 0x400 + (next - 0xDC00)) :: ·)
      else
        none
    else if isLow code then
      none
    else
      (characters? (next :: rest)).map (Char.ofNat code :: ·)

/-- The content of a text after its opening quote, and what follows the text. -/
def text (chars : List Char) : Option (Option String × List Char) := do
  let (found, rest) ← codes chars
  return ((characters? found).map String.ofList, rest)

/-! ## Numbers -/

/-- A number as written. -/
structure Numeral where
  /-- Whether a minus stands in front. -/
  negative : Bool
  /-- The digits before the point. -/
  whole : List Char
  /-- The digits after the point, if there is one. -/
  fraction : Option (List Char)
  /-- The sign and the digits of the exponent, if there is one. -/
  exponent : Option (Bool × List Char)

/-- At least one digit, as many as there are. -/
def someDigits (chars : List Char) : Option (List Char × List Char) :=
  let digits := chars.takeWhile Char.isDigit
  if digits.isEmpty then none else some (digits, chars.dropWhile Char.isDigit)

/-- The digits before the point: a zero stands alone. -/
def wholeDigits (chars : List Char) : Option (List Char × List Char) := do
  let (digits, rest) ← someDigits chars
  guard (digits.head? ≠ some '0' ∨ digits.length = 1)
  return (digits, rest)

/-- The point and the digits after it, if they are there. -/
def fraction (chars : List Char) : Option (Option (List Char) × List Char) :=
  match chars with
  | '.' :: rest => (someDigits rest).map fun (digits, after) => (some digits, after)
  | _ => some (none, chars)

/-- The exponent after its mark. -/
def exponentDigits (chars : List Char) : Option ((Bool × List Char) × List Char) :=
  match chars with
  | '-' :: rest => (someDigits rest).map fun (digits, after) => ((true, digits), after)
  | '+' :: rest => (someDigits rest).map fun (digits, after) => ((false, digits), after)
  | _ => (someDigits chars).map fun (digits, after) => ((false, digits), after)

/-- The exponent, if it is there. -/
def exponent (chars : List Char) : Option (Option (Bool × List Char) × List Char) :=
  match chars with
  | 'e' :: rest => (exponentDigits rest).map fun (found, after) => (some found, after)
  | 'E' :: rest => (exponentDigits rest).map fun (found, after) => (some found, after)
  | _ => some (none, chars)

/-- A number as written, and what follows it. -/
def numeral (chars : List Char) : Option (Numeral × List Char) := do
  let (negative, unsigned) := match chars with
    | '-' :: rest => (true, rest)
    | _ => (false, chars)
  let (whole, rest) ← wholeDigits unsigned
  let (fraction, rest) ← fraction rest
  let (exponent, rest) ← exponent rest
  return (⟨negative, whole, fraction, exponent⟩, rest)

/--
A significand grown digit by digit while it stays below `2 ^ 64`, and how many
digits went into it.
-/
def grow (significand : Nat) : List Char → Nat × Nat
  | [] => (significand, 0)
  | c :: rest =>
    let next := significand * 10 + digitValue c
    if next < wordBound then
      let (grown, taken) := grow next rest
      (grown, taken + 1)
    else
      (significand, 0)

/-- The greatest power of ten among the doubles. -/
def mostPower : Nat := 308

/--
A double scaled by a power of ten, by one multiplication or division where a power
among the doubles allows it.  No result if it grows out of range.
-/
def scale : Nat → Float → Int → Option Float
  | 0, x, _ => some (x * 0.0)
  | fuel + 1, x, exponent =>
    if exponent.natAbs ≤ mostPower then
      let power := Float.ofScientific 1 false exponent.natAbs
      if 0 ≤ exponent then
        let y := x * power
        if y.isInf then none else some y
      else
        some (x / power)
    else if x == 0.0 then
      some x
    else if 0 ≤ exponent then
      none
    else
      scale fuel (x / Float.ofScientific 1 false mostPower) (exponent + mostPower)

/-- An exponent is read up to this bound. -/
def exponentBound : Nat := Nat.pow 2 31

namespace Numeral

/-- The double that a number with a point, an exponent or many digits denotes. -/
def float? (n : Numeral) : Option Float := do
  let (whole, taken) := grow 0 n.whole
  let (significand, more) := grow whole (n.fraction.getD [])
  let point : Int := (n.whole.length : Int) - taken - more
  let (down, digits) := n.exponent.getD (false, [])
  let power := readDigits 0 digits
  let magnitude ←
    if power < exponentBound then
      scale 4 (Float.ofNat significand) (if down then point - power else point + power)
    else if significand ≠ 0 ∧ !down then
      none
    else
      some 0.0
  return if n.negative then -magnitude else magnitude

/-- The number that a numeral denotes, unless it is out of range. -/
def number? (n : Numeral) : Option Number :=
  let magnitude := readDigits 0 n.whole
  if n.fraction.isNone ∧ n.exponent.isNone ∧ !n.negative ∧ magnitude < wordBound then
    some (.integer magnitude)
  else if n.fraction.isNone ∧ n.exponent.isNone ∧ n.negative ∧ magnitude ≠ 0 ∧
      magnitude ≤ wordBound / 2 then
    some (.integer (-magnitude))
  else
    n.float?.map .float

end Numeral

/-! ## Documents -/

mutual

/-- A document, and what follows it. -/
def tree : Nat → List Char → Option (Tree × List Char)
  | 0, _ => none
  | fuel + 1, chars =>
    match skip chars with
    | 'n' :: 'u' :: 'l' :: 'l' :: rest => some (.null, rest)
    | 't' :: 'r' :: 'u' :: 'e' :: rest => some (.bool true, rest)
    | 'f' :: 'a' :: 'l' :: 's' :: 'e' :: rest => some (.bool false, rest)
    | '"' :: rest => (text rest).map fun (content, after) => (.text content, after)
    | '[' :: rest =>
      match skip rest with
      | ']' :: after => some (.list [], after)
      | inside => (items fuel inside).map fun (found, after) => (.list found, after)
    | '{' :: rest =>
      match skip rest with
      | '}' :: after => some (.object [], after)
      | inside => (members fuel inside).map fun (found, after) => (.object found, after)
    | start => (numeral start).map fun (n, after) => (.number n.number?, after)

/-- The items up to the closing bracket, at least one, and what follows the bracket. -/
def items : Nat → List Char → Option (List Tree × List Char)
  | 0, _ => none
  | fuel + 1, chars => do
    let (item, rest) ← tree fuel chars
    match skip rest with
    | ']' :: after => return ([item], after)
    | ',' :: more =>
      let (others, after) ← items fuel more
      return (item :: others, after)
    | _ => none

/-- The members up to the closing brace, at least one, and what follows the brace. -/
def members : Nat → List Char → Option (List (Option String × Tree) × List Char)
  | 0, _ => none
  | fuel + 1, chars =>
    match skip chars with
    | '"' :: named => do
      let (name, rest) ← text named
      match skip rest with
      | ':' :: valued =>
        let (value, rest) ← tree fuel valued
        match skip rest with
        | '}' :: after => return ([(name, value)], after)
        | ',' :: more =>
          let (others, after) ← members fuel more
          return ((name, value) :: others, after)
        | _ => none
      | _ => none
    | _ => none

end

/-- The document that characters spell, with nothing but blanks after it. -/
def document? (chars : List Char) : Option Tree := do
  let (found, rest) ← tree (chars.length + 1) chars
  guard (skip rest).isEmpty
  return found

/--
The characters of bytes, where a byte that belongs to no character is written as the
escape of half a character: it may stand in a text whose content nobody wants.  After
a backslash it can stand nowhere.
-/
def respell : Bool → List Utf8.Piece → List Char
  | _, [] => []
  | escaped, .char c :: rest => c :: respell (c == '\\' && !escaped) rest
  | true, .stray _ :: rest => Char.ofNat 0 :: respell false rest
  | false, .stray _ :: rest => ['\\', 'u', 'd', 'c', '8', '0'] ++ respell false rest

end Reader

namespace Tree

/-- The document that a text spells. -/
def ofText? (text : String) : Option Tree :=
  Reader.document? text.toList

/-- The document that bytes spell. -/
def ofBytes? (bytes : List UInt8) : Option Tree :=
  Reader.document? (Reader.respell false (Text.Utf8.pieces bytes))

end Tree

/-- The value that a text spells. -/
def Value.parse? (text : String) : Option Value :=
  (Tree.ofText? text).bind (Tree.value? mostNested)

end CloudPlan.Json
