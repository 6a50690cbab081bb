import CloudPlan.Number.Reading
import CloudPlan.Toml.Value

/-!
# TOML scalars

Strings, numbers, truth values and moments as they are written.
-/

namespace CloudPlan.Toml

/-! ## Strings -/

/-- A character that may stand in a comment or in a literal. -/
def isPrintable (c : Char) : Bool :=
  c == '\t' || (0x20 ≤ c.toNat && c.toNat != 0x7F)

/-- A space or a tab. -/
def isSpace (c : Char) : Bool :=
  c == ' ' || c == '\t'

/-- The characters after spaces and tabs. -/
def skipSpace (chars : List Char) : List Char :=
  chars.dropWhile isSpace

/-- The characters after a line break, if they begin with one. -/
def lineBreak? : List Char → Option (List Char)
  | '\n' :: rest => some rest
  | '\r' :: '\n' :: rest => some rest
  | _ => none

/-- The characters after blanks and line breaks. -/
def skipLines : List Char → List Char
  | '\r' :: '\n' :: rest => skipLines rest
  | c :: rest => if isSpace c ∨ c = '\n' then skipLines rest else c :: rest
  | [] => []

/-- The characters that a letter after a backslash stands for. -/
def escapes : List (Char × Char) :=
  [('b', '\x08'), ('t', '\t'), ('n', '\n'), ('f', '\x0c'), ('r', '\r'), ('"', '"'), ('\\', '\\')]

/-- The character of a code in so many hexadecimal digits. -/
def coded? (width : Nat) (chars : List Char) : Option (Char × List Char) := do
  guard (width ≤ chars.length)
  let code ← Text.naturalIn? 16 (chars.take width)
  guard code.isValidChar
  return (Char.ofNat code, chars.drop width)

/-- The character that stands after a backslash. -/
def escaped? : List Char → Option (Char × List Char)
  | 'u' :: rest => coded? 4 rest
  | 'U' :: rest => coded? 8 rest
  | c :: rest => (escapes.lookup c).map (·, rest)
  | [] => none

/-- The text of a basic string up to its end, in at most `fuel` steps. -/
def basic? : Nat → List Char → Option (List Char × List Char)
  | 0, _ => none
  | _, [] => none
  | _ + 1, '"' :: rest => some ([], rest)
  | fuel + 1, '\\' :: rest => do
    let (c, after) ← escaped? rest
    let (text, last) ← basic? fuel after
    return (c :: text, last)
  | fuel + 1, c :: rest => do
    guard (isPrintable c)
    let (text, last) ← basic? fuel rest
    return (c :: text, last)

/-- The end of a string of several lines: three marks, and up to two more before them. -/
def longEnd? (mark : Char) (chars : List Char) : Option (List Char × List Char) :=
  let marks := chars.takeWhile (· == mark)
  if 3 ≤ marks.length then
    let more := min (marks.length - 3) 2
    some (List.replicate more mark, chars.drop (more + 3))
  else
    none

/-- What follows a backslash at the end of a line: the next character that is no blank. -/
def continued? (chars : List Char) : Option (List Char) :=
  (lineBreak? (skipSpace chars)).map skipLines

/-- The text of a basic string of several lines up to its end, in at most `fuel` steps. -/
def longBasic? : Nat → List Char → Option (List Char × List Char)
  | 0, _ => none
  | fuel + 1, chars =>
    match longEnd? '"' chars, lineBreak? chars, chars with
    | some found, _, _ => some found
    | none, some rest, _ => (longBasic? fuel rest).map fun found => ('\n' :: found.1, found.2)
    | none, none, [] => none
    | none, none, '\\' :: rest =>
      match continued? rest with
      | some after => longBasic? fuel after
      | none => do
        let (c, after) ← escaped? rest
        let (text, last) ← longBasic? fuel after
        return (c :: text, last)
    | none, none, c :: rest => do
      guard (isPrintable c)
      let (text, last) ← longBasic? fuel rest
      return (c :: text, last)

/-- The text of a literal string up to its end. -/
def literal? : List Char → Option (List Char × List Char)
  | [] => none
  | '\'' :: rest => some ([], rest)
  | c :: rest => do
    guard (isPrintable c)
    let (text, last) ← literal? rest
    return (c :: text, last)

/-- The text of a literal string of several lines up to its end, in at most `fuel` steps. -/
def longLiteral? : Nat → List Char → Option (List Char × List Char)
  | 0, _ => none
  | fuel + 1, chars =>
    match longEnd? '\'' chars, lineBreak? chars, chars with
    | some found, _, _ => some found
    | none, some rest, _ =>
      (longLiteral? fuel rest).map fun found => ('\n' :: found.1, found.2)
    | none, none, [] => none
    | none, none, c :: rest => do
      guard (isPrintable c)
      let (text, last) ← longLiteral? fuel rest
      return (c :: text, last)

/-- The text of a string of several lines; a line break at its beginning does not count. -/
def longText? (read : Nat → List Char → Option (List Char × List Char)) (chars : List Char) :
    Option (List Char × List Char) :=
  read (chars.length + 1) ((lineBreak? chars).getD chars)

/-- A string on one line. -/
def shortString? : List Char → Option (String × List Char)
  | '"' :: rest => (basic? (rest.length + 1) rest).map fun found => (String.ofList found.1, found.2)
  | '\'' :: rest => (literal? rest).map fun found => (String.ofList found.1, found.2)
  | _ => none

/-- A string. -/
def string? : List Char → Option (String × List Char)
  | '"' :: '"' :: '"' :: rest =>
    (longText? longBasic? rest).map fun found => (String.ofList found.1, found.2)
  | '\'' :: '\'' :: '\'' :: rest =>
    (longText? longLiteral? rest).map fun found => (String.ofList found.1, found.2)
  | chars => shortString? chars

/-! ## Numbers -/

/-- The digits in a text in which underscores stand only between digits. -/
def digits? (isDigit : Char → Bool) : List Char → Option (List Char)
  | [] => none
  | [c] => if isDigit c then some [c] else none
  | c :: '_' :: rest => do
    guard (isDigit c)
    return c :: (← digits? isDigit rest)
  | c :: rest => do
    guard (isDigit c)
    return c :: (← digits? isDigit rest)

/-- Digits in a base. -/
def inBase? (base : Nat) (chars : List Char) : Option Nat := do
  Text.naturalIn? base (← digits? (fun c => (Text.digitIn? base c).isSome) chars)

/-- Digits without a zero before others. -/
def decimal? (chars : List Char) : Option (List Char) := do
  let digits ← digits? Char.isDigit chars
  guard (digits.length = 1 ∨ digits.head? ≠ some '0')
  return digits

/-- The integer that a word denotes, if it fits 64 bits. -/
def integer? (word : List Char) : Option Int := do
  let value : Int ← match word with
    | '0' :: 'x' :: rest => (inBase? 16 rest).map Int.ofNat
    | '0' :: 'o' :: rest => (inBase? 8 rest).map Int.ofNat
    | '0' :: 'b' :: rest => (inBase? 2 rest).map Int.ofNat
    | _ => do
      let (isNegative, unsigned) := Number.splitSign word
      let size := Text.readDigits 0 (← decimal? unsigned)
      pure (if isNegative then -(size : Int) else size)
  guard (-(Nat.pow 2 63 : Int) ≤ value ∧ value < Nat.pow 2 63)
  return value

/-- A word denotes a number with a fraction or an exponent, or one without digits. -/
def isFloat (word : List Char) : Bool :=
  let (_, unsigned) := Number.splitSign word
  let whole := unsigned.takeWhile fun (c : Char) => c.isDigit || c == '_'
  let (fraction, rest) := match unsigned.dropWhile fun (c : Char) => c.isDigit || c == '_' with
    | '.' :: more =>
      (some (more.takeWhile fun (c : Char) => c.isDigit || c == '_'),
        more.dropWhile fun (c : Char) => c.isDigit || c == '_')
    | more => (none, more)
  let exponent := match rest with
    | 'e' :: more => some (Number.splitSign more).2
    | 'E' :: more => some (Number.splitSign more).2
    | _ => none
  let isDecimal := (decimal? whole).isSome && fraction.all (digits? Char.isDigit · |>.isSome) &&
    exponent.all (digits? Char.isDigit · |>.isSome) && (rest.isEmpty || exponent.isSome) &&
    (fraction.isSome || exponent.isSome)
  let isFinite :=
    ((Number.float? (word.filter (· != '_'))).map Float.isFinite).getD false
  unsigned == ['i', 'n', 'f'] || unsigned == ['n', 'a', 'n'] || (isDecimal && isFinite)

/-! ## Moments -/

/-- The number of two digits, if it lies between bounds. -/
def twoDigits? (least most : Nat) : List Char → Option (Nat × List Char)
  | a :: b :: rest => do
    let value ← Text.natural? [a, b]
    guard (least ≤ value ∧ value ≤ most)
    return (value, rest)
  | _ => none

/-- A year has a day more than others. -/
def isLeapYear (year : Nat) : Bool :=
  (year % 4 == 0 && year % 100 != 0) || year % 400 == 0

/-- The number of days in a month. -/
def daysIn (year month : Nat) : Nat :=
  if month = 2 then (if isLeapYear year then 29 else 28)
  else if month = 4 ∨ month = 6 ∨ month = 9 ∨ month = 11 then 30
  else 31

/-- The characters after a date. -/
def date? (chars : List Char) : Option (List Char) := do
  guard (4 ≤ chars.length)
  let year ← Text.natural? (chars.take 4)
  match chars.drop 4 with
  | '-' :: afterYear =>
    let (month, afterMonth) ← twoDigits? 1 12 afterYear
    match afterMonth with
    | '-' :: rest => return (← twoDigits? 1 (daysIn year month) rest).2
    | _ => none
  | _ => none

/-- The characters after a time of day. -/
def time? (chars : List Char) : Option (List Char) := do
  let (_, afterHour) ← twoDigits? 0 23 chars
  match afterHour with
  | ':' :: minutes =>
    let (_, afterMinute) ← twoDigits? 0 59 minutes
    match afterMinute with
    | ':' :: seconds =>
      let (_, afterSecond) ← twoDigits? 0 60 seconds
      match afterSecond with
      | '.' :: fraction =>
        guard (fraction.takeWhile Char.isDigit ≠ [])
        return fraction.dropWhile Char.isDigit
      | rest => return rest
    | _ => none
  | _ => none

/-- An offset from universal time, or nothing. -/
def isOffset (chars : List Char) : Bool :=
  match chars with
  | [] => true
  | ['Z'] => true
  | ['z'] => true
  | c :: rest =>
    (c == '+' || c == '-') &&
      match twoDigits? 0 23 rest with
      | some (_, ':' :: minutes) => (twoDigits? 0 59 minutes).any (·.2.isEmpty)
      | _ => false

/-- A word denotes a date, a time, or both. -/
def isMoment (word : List Char) : Bool :=
  match date? word with
  | none => time? word == some []
  | some [] => true
  | some (c :: rest) =>
    (c == 'T' || c == 't' || c == ' ') && ((time? rest).map isOffset).getD false

/-- A character of a word for a number or a moment. -/
def isWordChar (c : Char) : Bool :=
  c.isAlphanum || c == '+' || c == '-' || c == '_' || c == '.' || c == ':'

/-- The word that characters begin with; a date and a time may have a space between them. -/
def word (chars : List Char) : List Char × List Char :=
  let first := chars.takeWhile isWordChar
  let rest := chars.dropWhile isWordChar
  match date? first, rest with
  | some [], ' ' :: c :: more =>
    if c.isDigit then
      (first ++ ' ' :: (c :: more).takeWhile isWordChar, (c :: more).dropWhile isWordChar)
    else
      (first, rest)
  | _, _ => (first, rest)

/-- A value that is a word. -/
def ofWord? (word : List Char) : Option Value :=
  if word = ['t', 'r', 'u', 'e'] then some (.bool true)
  else if word = ['f', 'a', 'l', 's', 'e'] then some (.bool false)
  else if isMoment word then some .moment
  else if isFloat word then some .float
  else (integer? word).map .integer

end CloudPlan.Toml
