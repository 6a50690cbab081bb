import CloudPlan.Json.Value
import CloudPlan.Text.Blank
import CloudPlan.Text.LetterCase

/-!
# Diagrams

The nodes and edges of a diagram document.  A containment edge points from the
container to what it contains, a dependency edge from the dependent node to what it
needs.
-/

namespace CloudPlan

/-- Open metadata of a node, by name. -/
abbrev Metadata := Json.Members

/-- The place of a node on the canvas. -/
structure Position where
  /-- The horizontal coordinate. -/
  x : Float := 0.0
  /-- The vertical coordinate. -/
  y : Float := 0.0
deriving DecidableEq

/-- A resource as it is drawn. -/
structure Node where
  /-- The name by which edges refer to the node. -/
  id : String
  /-- The type of the resource. -/
  typeName : String
  /-- The label, which may be empty. -/
  label : String := ""
  /-- The container, unless a containment edge names one. -/
  parentId : Option String := none
  /-- The place on the canvas. -/
  position : Position := {}
  /-- The metadata. -/
  metadata : Metadata := []
deriving DecidableEq

/-- The name under which a node is shown: its label, or its id if the label is blank. -/
def Node.displayName (node : Node) : String :=
  if Text.isBlankText node.label then node.id else node.label

/-- What an edge declares. -/
inductive EdgeKind where
  | containment
  | dependency
deriving DecidableEq

namespace EdgeKind

/-- Both kinds. -/
def all : List EdgeKind := [containment, dependency]

/-- How a kind is written. -/
def name : EdgeKind → String
  | containment => "containment"
  | dependency => "dependency"

/-- The kind that is written so. -/
def named? (text : String) : Option EdgeKind :=
  all.find? (·.name == text)

end EdgeKind

/-- The flavours of dependency. -/
inductive DependencyType where
  | uses
  | dependsOn
  | connectsTo
  | references
deriving DecidableEq

namespace DependencyType

/-- All flavours. -/
def all : List DependencyType := [uses, dependsOn, connectsTo, references]

/-- How a flavour is written. -/
def name : DependencyType → String
  | uses => "uses"
  | dependsOn => "depends_on"
  | connectsTo => "connects_to"
  | references => "references"

/-- The flavour that is written exactly so. -/
def named? (text : String) : Option DependencyType :=
  all.find? (·.name == text)

/-- The flavour that a text names, in any case and between blanks. -/
def parse? (text : String) : Option DependencyType :=
  named? (Text.lower (Text.trim text))

end DependencyType

/-- An edge between two nodes. -/
structure Edge where
  /-- The name of the edge. -/
  id : String
  /-- The node that the edge leaves. -/
  source : String
  /-- The node that the edge enters. -/
  target : String
  /-- What the edge declares. -/
  kind : EdgeKind := .dependency
  /-- The flavour of a dependency, if one is declared. -/
  dependencyType : Option DependencyType := none
deriving DecidableEq

namespace Edge

/-- The flavour of a dependency: the declared one, or the plain one. -/
def flavour (edge : Edge) : DependencyType :=
  edge.dependencyType.getD .dependsOn

/-- The edge by which a container holds a node. -/
def containing (id container node : String) : Edge :=
  { id, source := container, target := node, kind := .containment }

end Edge

/-- A diagram document. -/
structure Diagram where
  /-- The nodes, in document order. -/
  nodes : List Node := []
  /-- The edges, in document order. -/
  edges : List Edge := []

end CloudPlan
