import CloudPlan.Json.Value

/-!
# JSON documents as written

The tree of a document before anyone asks for its content.  Members keep their
order and repetitions.  A text that denotes no characters and a number out of
range have no content: they are errors only where the content is wanted.
-/

namespace CloudPlan.Json

/-- A document as written. -/
inductive Tree where
  | null
  | bool (value : Bool)
  | number (value : Option Number)
  | text (value : Option String)
  | list (items : List Tree)
  | object (members : List (Option String × Tree))

/-- Containers may be nested this deep where their content is wanted. -/
def mostNested : Nat := 127

namespace Tree

mutual

/-- The value of a document with at most `room` containers inside each other. -/
def value? (room : Nat) : Tree → Option Value
  | null => some .null
  | bool value => some (.bool value)
  | number value => value.map .number
  | text value => value.map .text
  | list items => do
    guard (0 < room)
    return .list (← items? (room - 1) items)
  | object members => do
    guard (0 < room)
    return .object (Members.ofList (← members? (room - 1) members))

/-- The values of items. -/
def items? (room : Nat) : List Tree → Option (List Value)
  | [] => some []
  | item :: rest => do return (← value? room item) :: (← items? room rest)

/-- The names and values of members, as written. -/
def members? (room : Nat) : List (Option String × Tree) → Option (List (String × Value))
  | [] => some []
  | (name, item) :: rest => do
    return (← name, ← value? room item) :: (← members? room rest)

end

end Tree

end CloudPlan.Json
