import CloudPlan.Json.Printer
import CloudPlan.Text.Blank

/-!
# Constraints

Structural constraints on the resources of a type.  A constraint is kept as it was
written, so that kinds and values nobody understands survive.
-/

namespace CloudPlan

/-- The kinds of constraint. -/
inductive ConstraintKind where
  | requiresParent
  | allowedParent
  | requiresRegion
  | maxChildren
  | minChildren
  | allowedDependencies
  | forbiddenDependencies
deriving DecidableEq

namespace ConstraintKind

/-- All kinds. -/
def all : List ConstraintKind :=
  [requiresParent, allowedParent, requiresRegion, maxChildren, minChildren,
    allowedDependencies, forbiddenDependencies]

/-- How a kind is written. -/
def name : ConstraintKind → String
  | requiresParent => "requires_parent"
  | allowedParent => "allowed_parent"
  | requiresRegion => "requires_region"
  | maxChildren => "max_children"
  | minChildren => "min_children"
  | allowedDependencies => "allowed_dependencies"
  | forbiddenDependencies => "forbidden_dependencies"

/-- The kind that a text names, between blanks. -/
def parse? (text : String) : Option ConstraintKind :=
  all.find? (·.name == Text.trim text)

end ConstraintKind

/-- A constraint on the resources of a type. -/
structure Constraint where
  /-- The name of the constraint, if it has one. -/
  id : Option String := none
  /-- The type of the resources. -/
  resourceType : String
  /-- The kind, as written. -/
  kindName : String
  /-- The value, as text. -/
  value : String := ""
deriving DecidableEq

namespace Constraint

/-- A constraint of a known kind. -/
def ofKind (resourceType : String) (kind : ConstraintKind) (value : String) : Constraint :=
  { resourceType, kindName := kind.name, value }

/-- Names of types as one value. -/
def typeList (names : List String) : String :=
  (Json.Value.ofTexts names).compact

/-- Resources have to be contained in one of the given types; none given means any. -/
def requiresParent (resourceType : String) (parents : List String) : Constraint :=
  ofKind resourceType .requiresParent <|
    match parents with
    | [] => ""
    | [parent] => parent
    | _ => typeList parents

/-- Resources that are contained have to be contained in one of the given types. -/
def allowedParent (resourceType : String) (parents : List String) : Constraint :=
  ofKind resourceType .allowedParent (typeList parents)

/-- The constraint under a name. -/
def named (constraint : Constraint) (id : String) : Constraint :=
  { constraint with id := some id }

/-- The kind, if it is known. -/
def kind? (constraint : Constraint) : Option ConstraintKind :=
  ConstraintKind.parse? constraint.kindName

/-- What to call the constraint: its name, or else what it is about. -/
def label (constraint : Constraint) : String :=
  constraint.id.getD (constraint.resourceType ++ "/" ++ constraint.kindName)

end Constraint

/-- Constraints in an order that is kept. -/
abbrev ConstraintSet := List Constraint

namespace ConstraintSet

/-- The constraints on a type, in their order. -/
def forType (set : ConstraintSet) (resourceType : String) : ConstraintSet :=
  set.filter (·.resourceType == resourceType)

/-- The constraints that go with the AWS catalogue. -/
def awsBaseline : ConstraintSet :=
  [(Constraint.ofKind "VPC" .requiresRegion "true").named "vpc-region",
    (Constraint.requiresParent "Subnet" ["VPC"]).named "subnet-in-vpc",
    (Constraint.requiresParent "InternetGateway" ["VPC"]).named "igw-in-vpc",
    (Constraint.ofKind "VPC" .maxChildren "InternetGateway:1").named "vpc-single-igw",
    (Constraint.requiresParent "RouteTable" ["VPC"]).named "route-table-in-vpc",
    (Constraint.requiresParent "SecurityGroup" ["VPC"]).named "sg-in-vpc",
    (Constraint.allowedParent "NATGateway" ["VPC", "Subnet"]).named "nat-placement",
    (Constraint.allowedParent "EC2" ["VPC", "Subnet"]).named "ec2-placement",
    (Constraint.allowedParent "RDS" ["VPC", "Subnet"]).named "rds-placement",
    (Constraint.allowedParent "LoadBalancer" ["VPC", "Subnet"]).named "lb-placement",
    (Constraint.allowedParent "EBSVolume" ["EC2"]).named "ebs-on-ec2",
    (Constraint.allowedParent "ElasticIP" ["NATGateway", "EC2"]).named "eip-attachment",
    (Constraint.ofKind "S3" .forbiddenDependencies "[\"EC2\"]").named "s3-no-compute-deps"]

end ConstraintSet

end CloudPlan
