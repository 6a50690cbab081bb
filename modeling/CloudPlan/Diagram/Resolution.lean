import CloudPlan.Diagram.Document
import CloudPlan.Diagram.Graph

/-!
# From diagrams to graphs

A diagram is accepted when its nodes and edges are named apart, its references
lead somewhere and its containment is a forest.  A containment edge counts before
the container that a node itself declares.
-/

namespace CloudPlan

namespace Diagram

/-- Why a diagram is refused. -/
inductive Error where
  | unreadable
  | emptyId
  | emptyType (node : String)
  | repeatedNode (node : String)
  | repeatedEdge (edge : String)
  | unknownEnd (edge node : String)
  | unknownParent (node parent : String)
  | selfEdge (node edge : String)
  | selfParent (node : String)
  | twoParents (node first second : String)
  | cycle (node : String) (path : List String)
deriving DecidableEq

namespace Error

/-- The node at which containment goes wrong, if that is the error. -/
def node? : Error → Option String
  | selfEdge node _ => some node
  | selfParent node => some node
  | twoParents node _ _ => some node
  | cycle node _ => some node
  | _ => none

/-- What is wrong, without the kind of error. -/
def reason : Error → String
  | unreadable => "invalid diagram JSON: not an object of nodes and edges"
  | emptyId => "node with empty id"
  | emptyType node => "node '" ++ node ++ "' has no resource type"
  | repeatedNode node => "duplicate node id '" ++ node ++ "'"
  | repeatedEdge edge => "duplicate edge id '" ++ edge ++ "'"
  | unknownEnd edge node => "edge '" ++ edge ++ "' references unknown node '" ++ node ++ "'"
  | unknownParent node parent =>
    "node '" ++ node ++ "' declares unknown parentId '" ++ parent ++ "'"
  | selfEdge _ edge => "edge '" ++ edge ++ "' makes the node contain itself"
  | selfParent _ => "parentId names the node itself"
  | twoParents _ first second =>
    "more than one containment parent ('" ++ first ++ "' and '" ++ second ++ "')"
  | cycle _ path => "containment cycle " ++ " -> ".intercalate path

/-- The stable name of the kind of error. -/
def code (error : Error) : String :=
  if error.node?.isSome then "InvalidContainmentGraph" else "MalformedDiagram"

/-- The message of an error. -/
def message (error : Error) : String :=
  match error.node? with
  | some node => "Invalid containment graph at node '" ++ node ++ "': " ++ error.reason
  | none => "Malformed diagram: " ++ error.reason

end Error

/-- Nodes have ids and types, and no id is among those seen or given twice. -/
def checkNodes (seen : List String) : List Node → Except Error Unit
  | [] => .ok ()
  | node :: rest =>
    if Text.isBlankText node.id then
      .error .emptyId
    else if Text.isBlankText node.typeName then
      .error (.emptyType node.id)
    else if node.id ∈ seen then
      .error (.repeatedNode node.id)
    else
      checkNodes (node.id :: seen) rest

/-- Edges join known nodes, and no id is among those seen or given twice. -/
def checkEdges (known seen : List String) : List Edge → Except Error Unit
  | [] => .ok ()
  | edge :: rest =>
    if edge.id ∈ seen then
      .error (.repeatedEdge edge.id)
    else if edge.source ∉ known then
      .error (.unknownEnd edge.id edge.source)
    else if edge.target ∉ known then
      .error (.unknownEnd edge.id edge.target)
    else
      checkEdges known (edge.id :: seen) rest

/-- The first containment edge into each node; further ones must agree with it. -/
def firstContaining (chosen : List Edge) : List Edge → Except Error (List Edge)
  | [] => .ok chosen
  | edge :: rest =>
    if edge.source = edge.target then
      .error (.selfEdge edge.target edge.id)
    else
      match chosen.find? (·.target == edge.target) with
      | some first =>
        if first.source = edge.source then
          firstContaining chosen rest
        else
          .error (.twoParents edge.target first.source edge.source)
      | none => firstContaining (chosen ++ [edge]) rest

/-- The edge that stands for the container a node declares. -/
def declaredEdge (node : Node) (parent : String) : Edge :=
  .containing (node.id ++ ":parent") parent node.id

/-- The containment edge into a node: a drawn one, or one for the declared container. -/
def containingEdge (known : List String) (drawn : List Edge) (node : Node) :
    Except Error (Option Edge) :=
  let edge? := drawn.find? (·.target == node.id)
  match node.parentId with
  | none => .ok edge?
  | some parent =>
    if parent ∉ known then
      .error (.unknownParent node.id parent)
    else
      match edge? with
      | some edge => .ok (some edge)
      | none =>
        if parent = node.id then
          .error (.selfParent node.id)
        else
          .ok (some (declaredEdge node parent))

/-- The containment edges of nodes, in order of the nodes. -/
def containingEdges (known : List String) (drawn : List Edge) :
    List Node → Except Error (List Edge)
  | [] => .ok []
  | node :: rest => do
    let edge? ← containingEdge known drawn node
    let edges ← containingEdges known drawn rest
    return edge?.toList ++ edges

/-- How far walks along containers have come with a node. -/
inductive Mark where
  | unvisited
  | inProgress
  | done
deriving DecidableEq

/-- The mark of an id; an id without a mark counts as done. -/
def markOf (marks : Dictionary Mark) (id : String) : Mark :=
  (marks.get? id).getD .done

/-- No walk has come to any node yet. -/
def unvisited (nodes : List Node) : Dictionary Mark :=
  nodes.foldl (fun marks node => marks.insert node.id .unvisited) .empty

/-- The part of a path from an id on, and the id once more. -/
def cycleAt (path : List String) (id : String) : List String :=
  path.drop ((path.findIdx? (· == id)).getD 0) ++ [id]

/--
Goes on from an id to its container, and from there to the next, behind the path gone so far.  The
walk ends where it comes to something done or to nothing, and fails where it comes to something
that is in progress.  The first argument bounds the number of ids it can go through.
-/
def walk (parents : Dictionary String) : Nat → Dictionary Mark → List String → Option String →
    Except Error (Dictionary Mark × List String)
  | _, marks, path, none => .ok (marks, path)
  | 0, marks, path, some _ => .ok (marks, path)
  | fuel + 1, marks, path, some id =>
    match markOf marks id with
    | .done => .ok (marks, path)
    | .inProgress => .error (.cycle id (cycleAt path id))
    | .unvisited =>
      walk parents fuel (marks.insert id .inProgress) (path ++ [id]) (parents.get? id)

/-- Marks the ids of a path as done. -/
def finish (marks : Dictionary Mark) (path : List String) : Dictionary Mark :=
  path.foldl (fun marks id => marks.insert id .done) marks

/-- Walks from one node after the other.  Whatever a walk has gone through is done behind it. -/
def walkAll (parents : Dictionary String) (fuel : Nat) :
    Dictionary Mark → List Node → Except Error Unit
  | _, [] => .ok ()
  | marks, start :: rest => do
    let (marks, path) ← walk parents fuel marks [] (some start.id)
    walkAll parents fuel (finish marks path) rest

/-- Containment has no cycle. -/
def checkForest (graph : Graph) : Except Error Graph := do
  walkAll graph.parents (graph.nodes.length + 1) (unvisited graph.nodes) graph.nodes
  return graph

/-- The graph of a diagram, if the diagram is accepted. -/
def toGraph (diagram : Diagram) : Except Error Graph := do
  let known := diagram.nodes.map (·.id)
  checkNodes [] diagram.nodes
  checkEdges known [] diagram.edges
  let drawn ← firstContaining [] (diagram.edges.filter (·.kind == .containment))
  let containment ← containingEdges known drawn diagram.nodes
  checkForest {
    nodes := diagram.nodes
    containment
    dependency := (diagram.edges.filter (·.kind == .dependency)).map fun edge =>
      { edge with dependencyType := some edge.flavour } }

end Diagram

namespace Graph

/-- The graph that bytes of JSON give. -/
def ofBytes (bytes : List UInt8) : Except Diagram.Error Graph :=
  match Diagram.ofBytes? bytes with
  | some diagram => diagram.toGraph
  | none => .error .unreadable

end Graph

end CloudPlan
