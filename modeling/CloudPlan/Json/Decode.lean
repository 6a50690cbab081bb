import CloudPlan.Json.Tree

/-!
# Reading records from JSON

A record is an object with one member for each field, or a list of its fields in
their declared order.  Members that name no field are passed over, and a field
given twice is refused.
-/

namespace CloudPlan.Json

/-- What a source of JSON content is at its top. -/
inductive View (α : Type) where
  | null
  | bool (value : Bool)
  | number (value : Number)
  | text (value : String)
  | list (items : List α)
  | object (members : List (String × α))
  | unreadable

/-- A source of JSON content. -/
class Source (α : Type) where
  /-- What the source is at its top. -/
  view : α → View α
  /-- The value of the whole source. -/
  value? : α → Option Value

instance : Source Value where
  view
    | .null => .null
    | .bool value => .bool value
    | .number value => .number value
    | .text value => .text value
    | .list items => .list items
    | .object members => .object members
  value? := some

/-- A document as written, with the room left for containers in it. -/
structure Nested where
  /-- The document. -/
  tree : Tree
  /-- How many containers may stand inside each other. -/
  room : Nat

instance : Source Nested where
  view source :=
    let inner (tree : Tree) : Nested := ⟨tree, source.room - 1⟩
    match source.tree with
    | .null => .null
    | .bool value => .bool value
    | .number (some value) => .number value
    | .text (some value) => .text value
    | .list items => if source.room = 0 then .unreadable else .list (items.map inner)
    | .object members =>
      match source.room, members.mapM (fun (name, item) => name.map (·, inner item)) with
      | 0, _ => .unreadable
      | _ + 1, some named => .object named
      | _ + 1, none => .unreadable
    | _ => .unreadable
  value? source := source.tree.value? source.room

variable {α β : Type} [Source α]

/-- A text. -/
def text? (source : α) : Option String :=
  match Source.view source with
  | .text value => some value
  | _ => none

/-- A truth value. -/
def bool? (source : α) : Option Bool :=
  match Source.view source with
  | .bool value => some value
  | _ => none

/-- A number as a double. -/
def float? (source : α) : Option Float :=
  match Source.view source with
  | .number value => some value.toFloat
  | _ => none

/-- Something that may be absent, which is written as null. -/
def nullable? (read : α → Option β) (source : α) : Option (Option β) :=
  match Source.view source with
  | .null => some none
  | _ => (read source).map some

/-- A list. -/
def list? (read : α → Option β) (source : α) : Option (List β) :=
  match Source.view source with
  | .list items => items.mapM read
  | _ => none

/-- The members of an object, as a value. -/
def members? (source : α) : Option Members :=
  match Source.value? source with
  | some (.object members) => some members
  | _ => none

/-- One of a few names, as a text or as the only member of an object, with null. -/
def name? (read : String → Option β) (source : α) : Option β :=
  match Source.view source with
  | .text value => read value
  | .object [(name, content)] =>
    match Source.view content with
    | .null => read name
    | _ => none
  | _ => none

/-- A field of a record: its name and other names that it goes by. -/
structure Field where
  /-- The name. -/
  name : String
  /-- The other names. -/
  aliases : List String := []

/-- A field goes by a name. -/
def Field.goesBy (field : Field) (name : String) : Bool :=
  field.name == name || field.aliases.contains name

/-- The fields that members give, under their own names. -/
def fieldsOfMembers? (fields : List Field) :
    List (String × α) → Option (List (String × α))
  | [] => some []
  | (name, content) :: rest => do
    let found ← fieldsOfMembers? fields rest
    match fields.find? (·.goesBy name) with
    | none => return found
    | some field =>
      guard (found.lookup field.name).isNone
      return (field.name, content) :: found

/-- The fields that a source gives, under their own names. -/
def fields? (fields : List Field) (source : α) : Option (List (String × α)) :=
  match Source.view source with
  | .object members => fieldsOfMembers? fields members
  | .list items =>
    if items.length ≤ fields.length then
      some ((fields.map (·.name)).zip items)
    else
      none
  | _ => none

/-- A field that must be given. -/
def required (given : List (String × α)) (name : String) (read : α → Option β) : Option β :=
  (given.lookup name).bind read

/-- A field that has a value when it is not given. -/
def optional (given : List (String × α)) (name : String) (absent : β)
    (read : α → Option β) : Option β :=
  match given.lookup name with
  | some content => read content
  | none => some absent

end CloudPlan.Json
