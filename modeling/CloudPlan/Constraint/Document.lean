import CloudPlan.Constraint.Basic
import CloudPlan.Json.Decode
import CloudPlan.Json.Reader
import CloudPlan.Yaml.Document

/-!
# Constraint documents

Constraints as JSON and as YAML: a list of constraints, or an object that holds such a
list.
-/

namespace CloudPlan

open Json

namespace Constraint

/-- The fields of a constraint. -/
def fields : List Field :=
  [⟨"id", []⟩, ⟨"resourceType", []⟩, ⟨"constraintType", []⟩, ⟨"constraintValue", []⟩]

/-- The text of a value: a text itself, nothing for null, else the value as JSON. -/
def valueText? {α : Type} [Source α] (source : α) : Option String :=
  match Source.view source with
  | .text value => some value
  | .null => some ""
  | _ => (Source.value? source).map Value.compact

/-- The constraint that a document gives. -/
def decode? {α : Type} [Source α] (source : α) : Option Constraint := do
  let given ← fields? fields source
  return {
    id := ← optional given "id" none (nullable? Json.text?)
    resourceType := ← required given "resourceType" Json.text?
    kindName := ← required given "constraintType" Json.text?
    value := ← optional given "constraintValue" "" valueText? }

/-- A constraint as JSON. -/
def encode (constraint : Constraint) : Value :=
  .object <|
    (constraint.id.map (("id", .text ·))).toList ++
      [("resourceType", .text constraint.resourceType),
        ("constraintType", .text constraint.kindName),
        ("constraintValue", .text constraint.value)]

end Constraint

namespace ConstraintSet

/-- The fields of an object that holds constraints. -/
def fields : List Field := [⟨"constraints", []⟩]

/-- The constraints that a document gives: as a list, or in an object that holds a list. -/
def decode? {α : Type} [Source α] (source : α) : Option ConstraintSet :=
  match Source.view source with
  | .object members => do
    required (← fieldsOfMembers? fields members) "constraints" (list? Constraint.decode?)
  | _ => list? Constraint.decode? source

/-- Constraints as JSON: an object with their list. -/
def encode (set : ConstraintSet) : Value :=
  .object [("constraints", .list (set.map Constraint.encode))]

/--
The constraints that JSON text gives.  All of the text has to have content, also what
no constraint asks for.
-/
def ofJson? (text : String) : Option ConstraintSet := do
  let tree ← Tree.ofText? text
  guard (tree.value? Json.mostNested).isSome
  decode? (Nested.mk tree Json.mostNested)

/-- The constraints that YAML text gives. -/
def ofYaml? (text : String) : Option ConstraintSet := do
  decode? (Nested.mk (← Yaml.tree? text) Yaml.mostNested)

end ConstraintSet

end CloudPlan
