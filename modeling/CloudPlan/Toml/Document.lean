import CloudPlan.Toml.Scalar

/-!
# TOML documents

Lines that name tables, and lines that give values to keys.
-/

namespace CloudPlan.Toml

/-! ## Keys -/

/-- A character of a key that is not quoted. -/
def isBareChar (c : Char) : Bool :=
  c.isAlphanum || c == '_' || c == '-'

/-- One part of a key. -/
def simpleKey? (chars : List Char) : Option (String × List Char) :=
  match shortString? chars with
  | some found => some found
  | none =>
    let bare := chars.takeWhile isBareChar
    if bare = [] then none else some (String.ofList bare, chars.dropWhile isBareChar)

/-- Keys have no more parts, and values are nested no deeper, than this. -/
def mostNested : Nat := 79

/-- The parts of a key, with dots between them, at most so many of them. -/
def keyParts? : Nat → List Char → Option (List String × List Char)
  | 0, _ => none
  | parts + 1, chars => do
    let (part, rest) ← simpleKey? (skipSpace chars)
    match skipSpace rest with
    | '.' :: more =>
      let (others, last) ← keyParts? parts more
      return (part :: others, last)
    | after => return ([part], after)

/-- A key. -/
def key? (chars : List Char) : Option (List String × List Char) :=
  keyParts? mostNested chars

/-! ## Values -/

/-- The characters after a comment, if they begin with one. -/
def skipComment (chars : List Char) : List Char :=
  match chars with
  | '#' :: rest => rest.dropWhile isPrintable
  | _ => chars

/-- The characters after blanks, line breaks and comments, in at most `fuel` steps. -/
def skipFiller : Nat → List Char → List Char
  | 0, chars => chars
  | fuel + 1, chars =>
    let after := skipComment (skipSpace chars)
    match lineBreak? after with
    | some rest => skipFiller fuel rest
    | none => after

/-- The characters after what may stand between the items of a list. -/
def skipAround (chars : List Char) : List Char :=
  skipFiller (chars.length + 1) chars

mutual

/-- A value, with collections nested at most `room` deep. -/
def value? (fuel room : Nat) (chars : List Char) : Option (Value × List Char) := do
  match fuel, chars with
  | 0, _ => none
  | fuel + 1, '[' :: rest =>
    guard (0 < room)
    let (items, after) ← items? fuel (room - 1) rest
    return (.list items, after)
  | fuel + 1, '{' :: rest =>
    guard (0 < room)
    match skipSpace rest with
    | '}' :: after => return (.inlineTable [], after)
    | _ =>
      let (entries, after) ← entries? fuel (room - 1) [] rest
      return (.inlineTable entries, after)
  | _ + 1, '"' :: rest => (string? ('"' :: rest)).map fun found => (.text found.1, found.2)
  | _ + 1, '\'' :: rest => (string? ('\'' :: rest)).map fun found => (.text found.1, found.2)
  | _ + 1, _ =>
    let (found, rest) := word chars
    return (← ofWord? found, rest)

/-- The items of a list up to its end; there may be a comma after the last one. -/
def items? (fuel room : Nat) (chars : List Char) : Option (List Value × List Char) := do
  match fuel, skipAround chars with
  | 0, _ => none
  | _ + 1, ']' :: rest => return ([], rest)
  | fuel + 1, start =>
    let (item, after) ← value? fuel room start
    match skipAround after with
    | ']' :: rest => return ([item], rest)
    | ',' :: rest =>
      let (others, last) ← items? fuel room rest
      return (item :: others, last)
    | _ => none

/-- The entries of a table on one line up to its end, after those that were read. -/
def entries? (fuel room : Nat) (read : Entries) (chars : List Char) :
    Option (Entries × List Char) := do
  match fuel with
  | 0 => none
  | fuel + 1 =>
    let (keys, afterKey) ← key? chars
    match afterKey with
    | '=' :: given =>
      let (value, after) ← value? fuel room (skipSpace given)
      let filled ← assign? keys.dropLast (← keys.getLast?) value ⟨.header, read⟩
      match skipSpace after with
      | '}' :: rest => return (filled, rest)
      | ',' :: rest => entries? fuel room filled rest
      | _ => none
    | _ => none

end

/-! ## Lines -/

/-- The characters after the end of a line, where nothing may be left but a comment. -/
def endLine? (chars : List Char) : Option (List Char) :=
  match skipComment (skipSpace chars) with
  | [] => some []
  | rest => lineBreak? rest

/-- The key between the brackets of a header. -/
def header? (close : List Char) (chars : List Char) : Option (List String × List Char) := do
  let (keys, after) ← key? chars
  guard (close.isPrefixOf after)
  return (keys, after.drop close.length)

/-- A line that gives a value to a key. -/
def assignment? (draft : Draft) (chars : List Char) : Option (Draft × List Char) := do
  let (keys, afterKey) ← key? chars
  match afterKey with
  | '=' :: given =>
    let (value, rest) ← value? (chars.length + 1) mostNested (skipSpace given)
    return (← draft.assign? keys value, rest)
  | _ => none

/-- What a line that is not empty says. -/
def line? (draft : Draft) : List Char → Option (Draft × List Char)
  | '[' :: '[' :: rest => do
    let (keys, after) ← header? [']', ']'] rest
    return (← draft.openListed? keys, after)
  | '[' :: rest => do
    let (keys, after) ← header? [']'] rest
    return (← draft.openTable? keys, after)
  | chars => assignment? draft chars

/-- Reads lines, at most `fuel` of them. -/
def lines? : Nat → Draft → List Char → Option Draft
  | 0, _, _ => none
  | fuel + 1, draft, chars =>
    match skipSpace chars with
    | [] => some draft
    | start =>
      match endLine? start with
      | some rest => lines? fuel draft rest
      | none => do
        let (next, after) ← line? draft start
        lines? fuel next (← endLine? after)

/-- The entries of the document that a text is. -/
def document? (text : String) : Option Entries := do
  let chars := match text.toList with
    | '\ufeff' :: rest => rest
    | chars => chars
  (← lines? (chars.length + 1) {} chars).close?

end CloudPlan.Toml
