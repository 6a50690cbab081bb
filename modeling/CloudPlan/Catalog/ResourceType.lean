import CloudPlan.Catalog.Provider
import CloudPlan.Json.Decode

/-!
# Resource types

The types that diagrams may name, as a catalogue describes them.
-/

namespace CloudPlan

open Json

/-- The family that a resource type belongs to. -/
inductive Category where
  | networking
  | compute
  | storage
  | database
  | security
  | messaging
  | integration
deriving DecidableEq

namespace Category

/-- All families. -/
def all : List Category :=
  [networking, compute, storage, database, security, messaging, integration]

/-- How a family is written. -/
def name : Category → String
  | networking => "networking"
  | compute => "compute"
  | storage => "storage"
  | database => "database"
  | security => "security"
  | messaging => "messaging"
  | integration => "integration"

/-- The family that is written exactly so. -/
def named? (text : String) : Option Category :=
  all.find? (·.name == text)

end Category

/-- A resource type. -/
structure ResourceType where
  /-- The name that diagrams use. -/
  name : String
  /-- The family. -/
  category : Category
  /-- The short name that the provider uses. -/
  kind : String
  /-- The provider that offers the type. -/
  provider : Provider
  /-- Resources of the type live in a region. -/
  isRegional : Bool
  /-- Resources of the type live in no region. -/
  isGlobal : Bool
deriving DecidableEq

namespace ResourceType

/-- A type whose resources live in a region. -/
def regional (name : String) (category : Category) (kind : String) (provider : Provider) :
    ResourceType :=
  { name, category, kind, provider, isRegional := true, isGlobal := false }

/-- A type whose resources live in no region. -/
def global (name : String) (category : Category) (kind : String) (provider : Provider) :
    ResourceType :=
  { name, category, kind, provider, isRegional := false, isGlobal := true }

/-- The fields of a resource type. -/
def fields : List Field :=
  [⟨"name", []⟩, ⟨"category", []⟩, ⟨"kind", []⟩, ⟨"cloudProvider", []⟩, ⟨"isRegional", []⟩,
    ⟨"isGlobal", []⟩]

/-- The resource type that a document gives. -/
def decode? {α : Type} [Source α] (source : α) : Option ResourceType := do
  let given ← fields? fields source
  return {
    name := ← required given "name" text?
    category := ← required given "category" (name? Category.named?)
    kind := ← required given "kind" text?
    provider := ← required given "cloudProvider" (name? Provider.named?)
    isRegional := ← required given "isRegional" bool?
    isGlobal := ← required given "isGlobal" bool? }

/-- A resource type as JSON. -/
def encode (type : ResourceType) : Value :=
  .object [
    ("name", .text type.name),
    ("category", .text type.category.name),
    ("kind", .text type.kind),
    ("cloudProvider", .text type.provider.name),
    ("isRegional", .bool type.isRegional),
    ("isGlobal", .bool type.isGlobal)]

end ResourceType

end CloudPlan
