import CloudPlan.Json.Tree
import CloudPlan.Number.Reading
import CloudPlan.Yaml.Node

/-!
# Documents

What YAML documents mean as JSON documents.  A plain scalar may be a number, a truth
value or null; everything else that is written is text.
-/

namespace CloudPlan.Yaml

/-! ## Plain scalars -/

/-- The integers between these bounds have a place in a document. -/
def isStorable (value : Int) : Bool :=
  -(Nat.pow 2 63 : Int) ≤ value && value < Nat.pow 2 64

/-- The integers between these bounds are recognized as integers. -/
def isRecognizable (value : Int) : Bool :=
  -(Nat.pow 2 127 : Int) ≤ value && value < Nat.pow 2 128

/-- Digits in a base, after the mark of the base. -/
def marked? : List Char → Option Nat
  | '0' :: 'x' :: digits => Text.naturalIn? 16 digits
  | '0' :: 'o' :: digits => Text.naturalIn? 8 digits
  | '0' :: 'b' :: digits => Text.naturalIn? 2 digits
  | _ => none

/-- Several digits of which the first is a zero; plain, they are text. -/
def hasLeadingZero (digits : List Char) : Bool :=
  1 < digits.length && digits.head? == some '0' && digits.all Char.isDigit

/-- The integer that characters denote, with a sign if there is one. -/
def integer? (chars : List Char) : Option Int := do
  let (isNegative, digits) := Number.splitSign chars
  guard !hasLeadingZero digits
  let size ← (marked? digits).or (Text.natural? digits)
  let value : Int := if isNegative then -size else size
  guard (isRecognizable value)
  return value

/-- The words for numbers that have no digits. -/
def numberWords : List (String × Float) :=
  let infinity : Float := 1.0 / 0.0
  [(".inf", infinity), (".Inf", infinity), (".INF", infinity), ("+.inf", infinity),
    ("+.Inf", infinity), ("+.INF", infinity), ("-.inf", -infinity), ("-.Inf", -infinity),
    ("-.INF", -infinity), (".nan", 0.0 / 0.0), (".NaN", 0.0 / 0.0), (".NAN", 0.0 / 0.0)]

/-- The double that a text denotes: a decimal in the range of doubles, or a word. -/
def float? (text : String) : Option Float :=
  (numberWords.lookup text).or do
    let value ← Number.float? text.toList
    guard value.isFinite
    return value

/-- The ways to write null. -/
def nullWords : List String := ["", "~", "null", "Null", "NULL"]

/-- The ways to write truth values. -/
def boolWords : List (String × Bool) :=
  [("true", true), ("True", true), ("TRUE", true), ("false", false), ("False", false),
    ("FALSE", false)]

/-- A double as a document; what is not finite has no place in one. -/
def ofFloat (value : Float) : Json.Tree :=
  if value.isFinite then .number (some (.float value)) else .null

/-- An integer as a document, if it has a place in one. -/
def ofInteger? (value : Int) : Option Json.Tree :=
  if isStorable value then some (.number (some (.integer value))) else none

/-- The meaning of a plain scalar. -/
def ofPlain? (text : String) : Option Json.Tree :=
  if nullWords.contains text then
    some .null
  else
    let isPadded := hasLeadingZero (Number.splitSign text.toList).2
    match boolWords.lookup text, integer? text.toList, float? text, isPadded with
    | some value, _, _, _ => some (.bool value)
    | none, some value, _, _ => ofInteger? value
    | none, none, some value, false => some (ofFloat value)
    | none, none, _, _ => some (.text (some text))

/-! ## Nodes -/

/-- The tag of a standard kind of scalar. -/
def standardTag (kind : String) : List String :=
  ["!" ++ kind, "<tag:yaml.org,2002:" ++ kind ++ ">"]

/-- A tag names something that no document of this kind can hold. -/
def isLocalTag (tag : String) : Bool :=
  match tag.toList with
  | '!' :: _ :: _ => false
  | '<' :: '!' :: _ => true
  | '<' :: _ => false
  | _ => true

/-- The meaning of a scalar with a tag, if it has the form that the tag demands. -/
def ofTagged? (tag text : String) : Option Json.Tree :=
  if isLocalTag tag then none
  else if (standardTag "null").contains tag then
    if nullWords.contains text ∧ text ≠ "" then some .null else none
  else if (standardTag "bool").contains tag then (boolWords.lookup text).map .bool
  else if (standardTag "int").contains tag then (integer? text.toList).bind ofInteger?
  else if (standardTag "float").contains tag then (float? text).map ofFloat
  else some (.text (some text))

namespace Node

/-- A collection may have a tag. -/
def allowsTag (tag : Option String) : Bool :=
  !tag.any isLocalTag

mutual

/-- The meaning of a node with at most `room` collections inside each other. -/
def tree? (room : Nat) : Node → Option Json.Tree
  | scalar none true text => ofPlain? text
  | scalar none false text => some (.text (some text))
  | scalar (some tag) _ text => ofTagged? tag text
  | sequence tag items => do
    guard (0 < room ∧ allowsTag tag)
    return .list (← trees? (room - 1) items)
  | mapping tag entries => do
    guard (0 < room ∧ allowsTag tag)
    return .object (← members? (room - 1) entries)

/-- The meaning of nodes. -/
def trees? (room : Nat) : List Node → Option (List Json.Tree)
  | [] => some []
  | item :: rest => do return (← tree? room item) :: (← trees? room rest)

/-- The meaning of entries; only keys that are texts name anything. -/
def members? (room : Nat) : List (Node × Node) → Option (List (Option String × Json.Tree))
  | [] => some []
  | (key, value) :: rest => do
    let name := match ← tree? room key with
      | .text name => name
      | _ => none
    return (name, ← tree? room value) :: (← members? room rest)

end

end Node

/-- Collections may be nested this deep. -/
def mostNested : Nat := 128

/-- The meaning of a text that holds one document. -/
def tree? (text : String) : Option Json.Tree := do
  (← Node.ofText? text).tree? mostNested

end CloudPlan.Yaml
