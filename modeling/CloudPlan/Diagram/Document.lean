import CloudPlan.Diagram.Basic
import CloudPlan.Json.Decode
import CloudPlan.Json.Reader

/-!
# Diagram documents

Diagrams as JSON.
-/

namespace CloudPlan

open Json

namespace Position

/-- The fields of a position. -/
def fields : List Field := [⟨"x", []⟩, ⟨"y", []⟩]

/-- The position that a document gives. -/
def decode? {α : Type} [Source α] (source : α) : Option Position := do
  let given ← fields? fields source
  return {
    x := ← required given "x" float?
    y := ← required given "y" float? }

/-- A position as JSON. -/
def encode (position : Position) : Value :=
  .object [("x", .number (.float position.x)), ("y", .number (.float position.y))]

end Position

namespace Node

/-- The fields of a node; its type goes by two names. -/
def fields : List Field :=
  [⟨"id", []⟩, ⟨"typeName", ["type"]⟩, ⟨"label", []⟩, ⟨"parentId", []⟩, ⟨"position", []⟩,
    ⟨"metadata", []⟩]

/-- The node that a document gives. -/
def decode? {α : Type} [Source α] (source : α) : Option Node := do
  let given ← fields? fields source
  return {
    id := ← required given "id" text?
    typeName := ← required given "typeName" text?
    label := ← optional given "label" "" text?
    parentId := ← optional given "parentId" none (nullable? text?)
    position := ← optional given "position" {} Position.decode?
    metadata := ← optional given "metadata" [] members? }

/-- A node as JSON. -/
def encode (node : Node) : Value :=
  .object <|
    [("id", .text node.id), ("typeName", .text node.typeName), ("label", .text node.label)] ++
      (node.parentId.map (("parentId", .text ·))).toList ++
      [("position", node.position.encode), ("metadata", .object node.metadata)]

end Node

namespace Edge

/-- The fields of an edge. -/
def fields : List Field :=
  [⟨"id", []⟩, ⟨"source", []⟩, ⟨"target", []⟩, ⟨"kind", []⟩, ⟨"dependencyType", []⟩]

/-- The edge that a document gives. -/
def decode? {α : Type} [Source α] (source : α) : Option Edge := do
  let given ← fields? fields source
  return {
    id := ← required given "id" text?
    source := ← required given "source" text?
    target := ← required given "target" text?
    kind := ← optional given "kind" .dependency (name? EdgeKind.named?)
    dependencyType := ←
      optional given "dependencyType" none (nullable? (name? DependencyType.named?)) }

/-- An edge as JSON. -/
def encode (edge : Edge) : Value :=
  .object <|
    [("id", .text edge.id), ("source", .text edge.source), ("target", .text edge.target),
      ("kind", .text edge.kind.name)] ++
      (edge.dependencyType.map fun flavour => ("dependencyType", .text flavour.name)).toList

end Edge

namespace Diagram

/-- The fields of a diagram. -/
def fields : List Field := [⟨"nodes", []⟩, ⟨"edges", []⟩]

/-- The diagram that a document gives. -/
def decode? {α : Type} [Source α] (source : α) : Option Diagram := do
  let given ← fields? fields source
  return {
    nodes := ← optional given "nodes" [] (list? Node.decode?)
    edges := ← optional given "edges" [] (list? Edge.decode?) }

/-- A diagram as JSON. -/
def encode (diagram : Diagram) : Value :=
  .object [
    ("nodes", .list (diagram.nodes.map Node.encode)),
    ("edges", .list (diagram.edges.map Edge.encode))]

/-- The diagram that bytes of JSON give. -/
def ofBytes? (bytes : List UInt8) : Option Diagram := do
  decode? (Nested.mk (← Tree.ofBytes? bytes) mostNested)

end Diagram

end CloudPlan
