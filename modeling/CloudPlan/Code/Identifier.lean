import CloudPlan.Text.Blank
import CloudPlan.Text.LetterCase

/-!
# Identifiers

Names as identifiers of small letters, digits and underscores.
-/

namespace CloudPlan.Code.Identifier

/-- A character of an identifier. -/
def isWordChar (c : Char) : Bool :=
  c.isLower || c.isDigit || c == '_'

/-- The characters with one underscore for every run of others; a run may go on at the start. -/
def collapse (inGap : Bool) : List Char → List Char
  | [] => []
  | c :: rest =>
    if isWordChar c then c :: collapse false rest
    else if inGap then collapse true rest
    else '_' :: collapse true rest

/-- The characters without the underscores at either end. -/
def strip (chars : List Char) : List Char :=
  ((chars.dropWhile (· == '_')).reverse.dropWhile (· == '_')).reverse

/-- The characters with a beginning that no identifier lacks: a letter. -/
def complete (chars : List Char) : String :=
  match chars with
  | [] => "resource"
  | c :: _ => if c.isDigit then "r_" ++ String.ofList chars else String.ofList chars

/-- The identifier that a name gives. -/
def sanitize (name : String) : String :=
  complete (strip (collapse false (Text.lower (Text.trim name)).toList))

end CloudPlan.Code.Identifier
