import CloudPlan.Architecture.Basic
import CloudPlan.Json.Decode

/-!
# Architecture documents

Architectures as JSON.  The graph that an architecture was made from is not written.
-/

namespace CloudPlan

open Json

namespace Dependency

/-- The fields of a dependency. -/
def fields : List Field := [⟨"target", []⟩, ⟨"dependencyType", []⟩, ⟨"origin", []⟩]

/-- The dependency that a document gives. -/
def decode? {α : Type} [Source α] (source : α) : Option Dependency := do
  let given ← fields? fields source
  return {
    target := ← required given "target" Json.text?
    type := ← required given "dependencyType" (name? DependencyType.named?)
    origin := ← required given "origin" (name? Origin.named?) }

/-- A dependency as JSON. -/
def encode (dependency : Dependency) : Value :=
  .object [
    ("target", .text dependency.target),
    ("dependencyType", .text dependency.type.name),
    ("origin", .text dependency.origin.name)]

end Dependency

namespace Resource

/-- The fields of a resource. -/
def fields : List Field :=
  [⟨"id", []⟩, ⟨"typeName", []⟩, ⟨"name", []⟩, ⟨"config", []⟩, ⟨"parents", []⟩,
    ⟨"children", []⟩, ⟨"dependsOn", []⟩, ⟨"synthesized", []⟩]

/-- The resource that a document gives. -/
def decode? {α : Type} [Source α] (source : α) : Option Resource := do
  let given ← fields? fields source
  return {
    id := ← required given "id" Json.text?
    typeName := ← required given "typeName" Json.text?
    name := ← required given "name" Json.text?
    config := ← optional given "config" [] members?
    parents := ← optional given "parents" [] (list? Json.text?)
    children := ← optional given "children" [] (list? Json.text?)
    dependsOn := ← optional given "dependsOn" [] (list? Dependency.decode?)
    synthesized := ← optional given "synthesized" false bool? }

/-- A resource as JSON. -/
def encode (resource : Resource) : Value :=
  .object [
    ("id", .text resource.id),
    ("typeName", .text resource.typeName),
    ("name", .text resource.name),
    ("config", .object resource.config),
    ("parents", .ofTexts resource.parents),
    ("children", .ofTexts resource.children),
    ("dependsOn", .list (resource.dependsOn.map Dependency.encode)),
    ("synthesized", .bool resource.synthesized)]

end Resource

namespace Architecture

/-- The fields of an architecture. -/
def fields : List Field :=
  [⟨"provider", []⟩, ⟨"region", []⟩, ⟨"resources", []⟩, ⟨"ordered", []⟩]

/-- The architecture that a document gives. -/
def decode? {α : Type} [Source α] (source : α) : Option Architecture := do
  let given ← fields? fields source
  return {
    provider := ← required given "provider" (name? Provider.named?)
    region := ← required given "region" Json.text?
    resources := ← required given "resources" (list? Resource.decode?)
    ordered := ← optional given "ordered" false bool? }

/-- An architecture as JSON. -/
def encode (architecture : Architecture) : Value :=
  .object [
    ("provider", .text architecture.provider.name),
    ("region", .text architecture.region),
    ("resources", .list (architecture.resources.map Resource.encode)),
    ("ordered", .bool architecture.ordered)]

end Architecture

end CloudPlan
