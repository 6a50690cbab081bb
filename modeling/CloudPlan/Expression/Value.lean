import CloudPlan.Expression.Tree
import CloudPlan.Json.Printer
import CloudPlan.Number.Reading
import CloudPlan.Text.Blank
import CloudPlan.Text.Quoted

/-!
# Values of expressions

What expressions evaluate to, how a value is taken for a truth value or a number,
and how it is shown.
-/

namespace CloudPlan.Expression

/-- A value. -/
inductive Value where
  | null
  | bool (value : Bool)
  | number (value : Float)
  | text (value : String)

/-- Numbers are written by their digits alone, never with an exponent. -/
def numberLayout : Number.Layout where
  isPlain _ := true
  wholeEnd := ""
  notANumber := "NaN"
  infinite := "inf"

namespace Value

/-- The value of metadata: containers count as their compact text. -/
def ofJson : Json.Value → Value
  | .null => null
  | .bool value => bool value
  | .number value => number value.toFloat
  | .text value => text value
  | .list items => text (Json.Value.list items).compact
  | .object members => text (Json.Value.object members).compact

/-- The truth of a value: null, zero and the empty text are not true. -/
def isTrue : Value → Bool
  | null => false
  | bool value => value
  | number value => value != 0.0
  | text value => value != ""

/-- The number that a text denotes between its outer blanks. -/
def textNumber? (content : String) : Option Float :=
  Number.float? (Text.trimChars content.toList)

/-- The number that a value is or that its text denotes. -/
def number? : Value → Option Float
  | number value => some value
  | text value => textNumber? value
  | null => none
  | bool _ => none

/-- The kind of a value, as messages name it. -/
def kind : Value → String
  | null => "null"
  | bool _ => "bool"
  | number _ => "number"
  | text _ => "string"

/-- How a value is shown. -/
def display : Value → String
  | null => "null"
  | bool value => if value then "true" else "false"
  | number value => numberLayout.write value
  | text value => Text.quoted value

/-- Equality: with a number on either side numbers are compared, else values as they are. -/
def looselyEqual : Value → Value → Bool
  | number left, right => ((right.number?).map (left == ·)).getD false
  | left, number right => ((left.number?).map (· == right)).getD false
  | null, null => true
  | bool left, bool right => left == right
  | text left, text right => left == right
  | _, _ => false

end Value

end CloudPlan.Expression
