import CloudPlan.Json.Value

/-!
# Blocks

Configuration blocks, before a writer spells them: a type, labels, attributes in an
order that is kept, and nested blocks.
-/

namespace CloudPlan.Code

/-- An expression that refers to something outside the block it stands in. -/
inductive Reference where
  /-- An attribute of a resource block. -/
  | ofResource (kind name field : String)
  /-- The value of a variable. -/
  | ofVariable (name : String)
  /-- Any expression, as it is written. -/
  | raw (expression : String)
deriving DecidableEq

/-- How a reference is written. -/
def Reference.text : Reference → String
  | ofResource kind name field => kind ++ "." ++ name ++ "." ++ field
  | ofVariable name => "var." ++ name
  | raw expression => expression

/-- The value of an attribute. -/
inductive AttrValue where
  | text (value : String)
  | number (value : Json.Number)
  | bool (value : Bool)
  | list (items : List AttrValue)
  | map (entries : List (String × AttrValue))
  | reference (target : Reference)

/-- Values under keys, each key once, in an order that is kept. -/
abbrev Attributes := List (String × AttrValue)

/-- Sets the value under a key, in its place if the key has one and else at the end. -/
def Attributes.set (key : String) (value : AttrValue) : Attributes → Attributes
  | [] => [(key, value)]
  | (other, held) :: rest =>
    if other = key then (key, value) :: rest else (other, held) :: set key value rest

/-- The attributes that pairs set one after the other. -/
def Attributes.ofList (pairs : List (String × AttrValue)) : Attributes :=
  pairs.foldl (fun attributes pair => set pair.1 pair.2 attributes) []

namespace AttrValue

/-- A natural number as a value. -/
def ofNat (n : Nat) : AttrValue := number (.integer n)

/-- A reference to an attribute of a resource block. -/
def ofResource (kind name field : String) : AttrValue :=
  reference (.ofResource kind name field)

/-- A reference to a variable. -/
def ofVariable (name : String) : AttrValue :=
  reference (.ofVariable name)

mutual

/-- A JSON value as the value of an attribute; null is none. -/
def ofJson? : Json.Value → Option AttrValue
  | .null => none
  | .bool value => some (bool value)
  | .number value => some (number value)
  | .text value => some (text value)
  | .list items => some (list (ofJsonItems items))
  | .object members => some (map (ofJsonMembers members))

/-- JSON values as values of attributes; nulls are left out. -/
def ofJsonItems : List Json.Value → List AttrValue
  | [] => []
  | item :: rest => (ofJson? item).toList ++ ofJsonItems rest

/-- The members of a JSON object as values under keys; nulls are left out. -/
def ofJsonMembers : List (String × Json.Value) → Attributes
  | [] => []
  | (key, item) :: rest => ((ofJson? item).map (key, ·)).toList ++ ofJsonMembers rest

end

/-- A value that is spread over several lines. -/
def isMultiline : AttrValue → Bool
  | map entries => !entries.isEmpty
  | _ => false

end AttrValue

/-- A configuration block. -/
structure Block where
  /-- The type. -/
  type : String
  /-- The labels. -/
  labels : List String := []
  /-- The attributes. -/
  attributes : Attributes := []
  /-- The nested blocks. -/
  blocks : List Block := []

namespace Block

/-- A resource block. -/
def resource (kind name : String) : Block :=
  { type := "resource", labels := [kind, name] }

/-- A variable block. -/
def ofVariable (name : String) : Block :=
  { type := "variable", labels := [name] }

/-- An output block. -/
def output (name : String) : Block :=
  { type := "output", labels := [name] }

/-- The block with an attribute set. -/
def attr (block : Block) (key : String) (value : AttrValue) : Block :=
  { block with attributes := block.attributes.set key value }

/-- The block with an attribute set if there is a value for it. -/
def attr? (block : Block) (key : String) (value : Option AttrValue) : Block :=
  match value with
  | some value => block.attr key value
  | none => block

/-- The block with a text set as an attribute. -/
def textAttr (block : Block) (key value : String) : Block :=
  block.attr key (.text value)

/-- The block with one more block nested in it. -/
def nest (block inner : Block) : Block :=
  { block with blocks := block.blocks ++ [inner] }

/-- How references call the block: by kind and name, if it has these two labels. -/
def address? (block : Block) : Option String :=
  match block.labels with
  | [kind, name] =>
    if block.type = "resource" ∨ block.type = "data" then some (kind ++ "." ++ name) else none
  | _ => none

end Block

end CloudPlan.Code
