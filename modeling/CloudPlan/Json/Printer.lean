import CloudPlan.Json.Value
import CloudPlan.Number.Layout

/-!
# Printing JSON

Values as compact text, and as text over several lines.
-/

namespace CloudPlan.Json

/--
A double is written without an exponent from `10 ^ -5` up to below `10 ^ 16`, and
always with a point or an exponent.
-/
def numberLayout : Number.Layout where
  isPlain power := -5 ≤ power ∧ power < 16
  wholeEnd := ".0"
  notANumber := "null"
  infinite := "null"

/-- The text of a number. -/
def Number.write : Number → String
  | integer value => toString value
  | float value => numberLayout.write value

/-- How one character stands between the quotes of a JSON text. -/
def escape (c : Char) : List Char :=
  match c with
  | '"' => ['\\', '"']
  | '\\' => ['\\', '\\']
  | '\n' => ['\\', 'n']
  | '\r' => ['\\', 'r']
  | '\t' => ['\\', 't']
  | _ =>
    if c.toNat = 8 then
      ['\\', 'b']
    else if c.toNat = 12 then
      ['\\', 'f']
    else if c.toNat < 0x20 then
      ['\\', 'u', '0', '0', Nat.digitChar (c.toNat / 16), Nat.digitChar (c.toNat % 16)]
    else
      [c]

/-- A text between quotes. -/
def quote (text : String) : List Char :=
  '"' :: text.toList.flatMap escape ++ ['"']

namespace Value

mutual

/-- A value as text without blanks. -/
def compactChars : Value → List Char
  | null => ['n', 'u', 'l', 'l']
  | bool value => if value then ['t', 'r', 'u', 'e'] else ['f', 'a', 'l', 's', 'e']
  | number value => value.write.toList
  | text value => quote value
  | list items => '[' :: compactItems items ++ [']']
  | object members => '{' :: compactMembers members ++ ['}']

/-- Items between commas. -/
def compactItems : List Value → List Char
  | [] => []
  | [item] => compactChars item
  | item :: next :: rest => compactChars item ++ ',' :: compactItems (next :: rest)

/-- Members between commas. -/
def compactMembers : List (String × Value) → List Char
  | [] => []
  | [(name, value)] => quote name ++ ':' :: compactChars value
  | (name, value) :: next :: rest =>
    quote name ++ ':' :: compactChars value ++ ',' :: compactMembers (next :: rest)

end

/-- A value as text without blanks. -/
def compact (value : Value) : String :=
  String.ofList value.compactChars

/-- A new line with two spaces for each level. -/
def newLine (level : Nat) : List Char :=
  '\n' :: List.replicate (2 * level) ' '

mutual

/-- A value over several lines, at a level of indentation. -/
def prettyChars (level : Nat) : Value → List Char
  | list (item :: rest) =>
    '[' :: newLine (level + 1) ++ prettyItems (level + 1) (item :: rest) ++
      newLine level ++ [']']
  | object (member :: rest) =>
    '{' :: newLine (level + 1) ++ prettyMembers (level + 1) (member :: rest) ++
      newLine level ++ ['}']
  | list [] => ['[', ']']
  | object [] => ['{', '}']
  | null => compactChars null
  | bool value => compactChars (bool value)
  | number value => compactChars (number value)
  | text value => compactChars (text value)

/-- Items on lines of their own. -/
def prettyItems (level : Nat) : List Value → List Char
  | [] => []
  | [item] => prettyChars level item
  | item :: next :: rest =>
    prettyChars level item ++ ',' :: newLine level ++ prettyItems level (next :: rest)

/-- Members on lines of their own. -/
def prettyMembers (level : Nat) : List (String × Value) → List Char
  | [] => []
  | [(name, value)] => quote name ++ ':' :: ' ' :: prettyChars level value
  | (name, value) :: next :: rest =>
    quote name ++ ':' :: ' ' :: prettyChars level value ++
      ',' :: newLine level ++ prettyMembers level (next :: rest)

end

/-- A value over several lines, two spaces for each level. -/
def pretty (value : Value) : String :=
  String.ofList (value.prettyChars 0)

end Value

end CloudPlan.Json
