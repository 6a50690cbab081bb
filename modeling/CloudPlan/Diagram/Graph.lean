import CloudPlan.Diagram.Basic
import CloudPlan.Dictionary

/-!
# Graphs

An accepted diagram: nodes in document order, a forest of containment and the
dependencies between nodes.  Containers and contents are looked up in dictionaries, each of
which one pass over the edges or over the nodes fills.
-/

namespace CloudPlan

/-- A diagram whose containment is resolved. -/
structure Graph where
  /-- The nodes, in document order. -/
  nodes : List Node
  /-- One containment edge for each contained node, in document order of the nodes. -/
  containment : List Edge
  /-- The dependency edges, in document order. -/
  dependency : List Edge
deriving DecidableEq

namespace Graph

/-- The node with an id. -/
def node? (graph : Graph) (id : String) : Option Node :=
  graph.nodes.find? (·.id == id)

/-- The place of a node in document order. -/
def index? (graph : Graph) (id : String) : Option Nat :=
  graph.nodes.findIdx? (·.id == id)

/-- The ids of containers by the ids of what they contain; of edges into one node the last
counts. -/
def parents (graph : Graph) : Dictionary String :=
  graph.containment.foldl (fun parents edge => parents.insert edge.target edge.source) .empty

/-- The id of the container of a node. -/
def parentId? (graph : Graph) (id : String) : Option String :=
  graph.parents.get? id

/-- The container of a node. -/
def parent? (graph : Graph) (id : String) : Option Node :=
  (graph.parentId? id).bind graph.node?

/-- Puts a node behind the contents of its container, if it has one. -/
def addContent (parents : Dictionary String) (contents : Dictionary (List String)) (node : Node) :
    Dictionary (List String) :=
  match parents.get? node.id with
  | some parent => contents.insert parent ((contents.get? parent).getD [] ++ [node.id])
  | none => contents

/-- The ids of contents by the ids of their containers. -/
def contents (graph : Graph) : Dictionary (List String) :=
  graph.nodes.foldl (addContent graph.parents) .empty

/-- What a node contains, in document order. -/
def children (graph : Graph) (id : String) : List Node :=
  ((graph.contents.get? id).getD []).filterMap graph.node?

/-- The dependencies of a node, in document order. -/
def dependencies (graph : Graph) (id : String) : List Edge :=
  graph.dependency.filter (·.source == id)

/-- The nodes without a container, in document order. -/
def roots (graph : Graph) : List Node :=
  graph.nodes.filter fun node => (graph.parentId? node.id).isNone

end Graph

end CloudPlan
