import CloudPlan.Catalog.HiddenRule
import CloudPlan.Catalog.ResourceType
import CloudPlan.Dictionary

/-!
# Catalogues

The resource types that are known, by name, the names in the order of their registration, and
the hidden rules under the names of types.
-/

namespace CloudPlan

/-- The known resource types and the hidden rules. -/
structure Catalog where
  /-- The types, by name. -/
  registered : Dictionary ResourceType
  /-- The names of the types, in order of registration. -/
  order : List String
  /-- The rules with the names they are filed under, in the order in which they came. -/
  rules : List (String × HiddenRule)

namespace Catalog

/-- Why a type cannot be resolved. -/
inductive Error where
  | unknownType (name : String)
  | otherProvider (name : String) (registered wanted : Provider)
deriving DecidableEq

/-- The message of an error. -/
def Error.message : Error → String
  | unknownType name => "Unknown resource type: " ++ name
  | otherProvider name registered wanted =>
    "Unknown resource type: " ++ name ++ " (registered for " ++ registered.name ++ ", not " ++
      wanted.name ++ ")"

/-- The catalogue without types. -/
def empty : Catalog := ⟨.empty, [], []⟩

/-- The type with exactly this name. -/
def resolve? (catalog : Catalog) (name : String) : Option ResourceType :=
  catalog.registered.get? name

/-- A type with this name is known. -/
def contains (catalog : Catalog) (name : String) : Bool :=
  (catalog.resolve? name).isSome

/-- The type with exactly this name, which has to be known. -/
def resolve (catalog : Catalog) (name : String) : Except Error ResourceType :=
  match catalog.resolve? name with
  | some type => .ok type
  | none => .error (.unknownType name)

/-- The type with exactly this name, which has to be known for the provider. -/
def resolveFor (catalog : Catalog) (name : String) (provider : Provider) :
    Except Error ResourceType := do
  let type ← catalog.resolve name
  if type.provider = provider then
    return type
  else
    throw (.otherProvider name type.provider provider)

/-- The rules filed under the name of a type. -/
def hiddenRules (catalog : Catalog) (name : String) : List HiddenRule :=
  (catalog.rules.filter (·.1 == name)).map (·.2)

/-- Registers a type, and files its rules under its name.  A type of the same name gives up its
place to it. -/
def register (catalog : Catalog) (type : ResourceType) (rules : List HiddenRule) : Catalog where
  registered := catalog.registered.insert type.name type
  order := if catalog.contains type.name then catalog.order else catalog.order ++ [type.name]
  rules := catalog.rules ++ rules.map (type.name, ·)

/-- Files a rule under the type that it is for, which has to be known. -/
def addRule (catalog : Catalog) (rule : HiddenRule) : Except Error Catalog := do
  let _ ← catalog.resolve rule.parentType
  return { catalog with rules := catalog.rules ++ [(rule.parentType, rule)] }

/-- The names of the types, in order of registration. -/
def names (catalog : Catalog) : List String :=
  catalog.order

/-- The types, in order of registration. -/
def types (catalog : Catalog) : List ResourceType :=
  catalog.order.filterMap catalog.resolve?

/-- The number of types. -/
def size (catalog : Catalog) : Nat :=
  catalog.registered.size

/-- The catalogue in one line: the names of its types and the number of its rules. -/
def summary (catalog : Catalog) : String :=
  "ResourceTypeRegistry \x7b types: " ++ Text.quotedList catalog.names ++
    ", hidden_rules: " ++ toString catalog.rules.length ++ " \x7d"

end Catalog

end CloudPlan
