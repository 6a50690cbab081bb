import CloudPlan.Catalog.Basic
import CloudPlan.Constraint.Requirement
import CloudPlan.Diagram.Graph

/-!
# Violations

What is wrong with a graph, node by node in document order.  Nodes of types that no
catalogue knows are not checked.
-/

namespace CloudPlan

/-- What a resource does against a requirement. -/
inductive Fault where
  /-- Nothing contains the resource. -/
  | notContained (allowed : Option (List String))
  /-- What contains the resource is of none of the types it must be of. -/
  | containedElsewhere (allowed : List String) (parent : Node)
  /-- What contains the resource is of none of the types it may be of. -/
  | containedAmiss (allowed : List String) (parent : Node)
  /-- There is no region. -/
  | noRegion
  /-- It contains too many resources. -/
  | tooMany (bound : ChildBound) (found : Nat)
  /-- It contains too few resources. -/
  | tooFew (bound : ChildBound) (found : Nat)
  /-- It depends on a resource that is not listed. -/
  | unlistedDependency (listed : List String) (target : Node) (flavour : DependencyType)
  /-- It depends on a resource that is listed. -/
  | listedDependency (listed : List String) (target : Node) (flavour : DependencyType)

namespace Fault

/-- The kind of constraint that is violated. -/
def kind : Fault → ConstraintKind
  | notContained _ => .requiresParent
  | containedElsewhere _ _ => .requiresParent
  | containedAmiss _ _ => .allowedParent
  | noRegion => .requiresRegion
  | tooMany _ _ => .maxChildren
  | tooFew _ _ => .minChildren
  | unlistedDependency _ _ _ => .allowedDependencies
  | listedDependency _ _ _ => .forbiddenDependencies

/-- Names in one line. -/
def listing (names : List String) : String :=
  ", ".intercalate names

/-- A node as messages mention it. -/
def mention (node : Node) : String :=
  node.typeName ++ " '" ++ node.id ++ "'"

/-- What a count of contents says. -/
def countMessage (relation : String) (bound : ChildBound) (found : Nat) : String :=
  "must contain " ++ relation ++ " " ++ toString bound.count ++ " " ++
    bound.childType.getD "child" ++ " resources, found " ++ toString found

/-- A dependency as messages mention it. -/
def mentionDependency (target : Node) (flavour : DependencyType) : String :=
  mention target ++ " (" ++ flavour.name ++ ")"

/-- What was expected. -/
def expected : Fault → String
  | notContained none => "any parent"
  | notContained (some allowed) => listing allowed
  | containedElsewhere allowed _ => listing allowed
  | containedAmiss allowed _ => listing allowed
  | noRegion => "non-empty region"
  | tooMany bound _ => toString bound.count
  | tooFew bound _ => toString bound.count
  | unlistedDependency listed _ _ => "one of " ++ listing listed
  | listedDependency listed _ _ => "none of " ++ listing listed

/-- What was found. -/
def actual : Fault → String
  | notContained _ => "none"
  | containedElsewhere _ parent => parent.typeName
  | containedAmiss _ parent => parent.typeName
  | noRegion => "none"
  | tooMany _ found => toString found
  | tooFew _ found => toString found
  | unlistedDependency _ target _ => target.typeName
  | listedDependency _ target _ => target.typeName

/-- What a resource does wrong, to be read after its name. -/
def complaint : Fault → String
  | notContained allowed => "must be placed inside " ++ (notContained allowed).expected
  | containedElsewhere allowed parent =>
    "must be placed inside " ++ " or ".intercalate allowed ++ ", found " ++ mention parent
  | containedAmiss _ parent => "cannot be placed inside " ++ mention parent
  | noRegion => "requires a region"
  | tooMany bound found => countMessage "at most" bound found
  | tooFew bound found => countMessage "at least" bound found
  | unlistedDependency _ target flavour =>
    "may not depend on " ++ mentionDependency target flavour
  | listedDependency _ target flavour =>
    "must not depend on " ++ mentionDependency target flavour

end Fault

/-- A fault of a resource. -/
structure Violation where
  /-- The node of the resource. -/
  node : Node
  /-- The fault. -/
  fault : Fault

namespace Violation

/-- The message of a violation. -/
def message (violation : Violation) : String :=
  Fault.mention violation.node ++ " " ++ violation.fault.complaint

/-- The violation in one line. -/
def display (violation : Violation) : String :=
  "[" ++ violation.fault.kind.name ++ "] " ++ violation.node.id ++ ": " ++ violation.message

/-- A violation as JSON. -/
def encode (violation : Violation) : Json.Value :=
  .object [
    ("resourceId", .text violation.node.id),
    ("resourceType", .text violation.node.typeName),
    ("constraintType", .text violation.fault.kind.name),
    ("message", .text violation.message),
    ("expected", .text violation.fault.expected),
    ("actual", .text violation.fault.actual)]

end Violation

namespace Requirement

/-- How many of the contents of a node count toward a bound. -/
def childCount (graph : Graph) (node : Node) (bound : ChildBound) : Nat :=
  (graph.children node.id).countP fun child =>
    bound.childType.all fun childType => child.typeName == childType

/-- A dependency is listed when its flavour is, or the type of its target. -/
def isListed (listed : List String) (target : Node) (flavour : DependencyType) : Bool :=
  listed.any fun entry => entry == target.typeName || entry == flavour.name

/-- The targets of the dependencies of a node, with their flavours. -/
def dependencyTargets (graph : Graph) (node : Node) : List (Node × DependencyType) :=
  (graph.dependencies node.id).filterMap fun edge =>
    (graph.node? edge.target).map (·, edge.flavour)

/-- What a node does against a requirement. -/
def faults (graph : Graph) (region : String) (node : Node) : Requirement → List Fault
  | contained allowed =>
    match graph.parent? node.id, allowed with
    | none, _ => [.notContained allowed]
    | some parent, some names =>
      if parent.typeName ∈ names then [] else [.containedElsewhere names parent]
    | some _, none => []
  | containedOnlyIn names =>
    match graph.parent? node.id with
    | none => []
    | some parent => if parent.typeName ∈ names then [] else [.containedAmiss names parent]
  | .region => if Text.isBlankText region then [.noRegion] else []
  | atMost bound =>
    let found := childCount graph node bound
    if bound.count < found then [.tooMany bound found] else []
  | atLeast bound =>
    let found := childCount graph node bound
    if found < bound.count then [.tooFew bound found] else []
  | dependsOnlyOn listed =>
    ((dependencyTargets graph node).filter fun target =>
      !isListed listed target.1 target.2).map fun target =>
        .unlistedDependency listed target.1 target.2
  | neverDependsOn listed =>
    ((dependencyTargets graph node).filter fun target =>
      isListed listed target.1 target.2).map fun target =>
        .listedDependency listed target.1 target.2

end Requirement

namespace ConstraintSet

/-- The violations of a node. -/
def violationsOf (set : ConstraintSet) (graph : Graph) (region : String) (node : Node) :
    List Violation :=
  ((set.forType node.typeName).filterMap (·.requirement?)).flatMap fun requirement =>
    (requirement.faults graph region node).map (⟨node, ·⟩)

/-- The violations of a graph. -/
def violations (set : ConstraintSet) (catalog : Catalog) (graph : Graph) (region : String) :
    List Violation :=
  (graph.nodes.filter (catalog.contains ·.typeName)).flatMap (set.violationsOf graph region)

end ConstraintSet

end CloudPlan
