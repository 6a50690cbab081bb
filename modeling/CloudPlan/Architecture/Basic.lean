import CloudPlan.Catalog.Basic
import CloudPlan.Diagram.Graph

/-!
# Architectures

The resources of a deployment with the links between them: containment from both of
its ends, and dependencies.
-/

namespace CloudPlan

/-- Where a dependency comes from. -/
inductive Origin where
  | explicit
  | hidden
deriving DecidableEq

namespace Origin

/-- Both origins. -/
def all : List Origin := [explicit, hidden]

/-- How an origin is written. -/
def name : Origin → String
  | explicit => "explicit"
  | hidden => "hidden"

/-- The origin that is written exactly so. -/
def named? (text : String) : Option Origin :=
  all.find? (·.name == text)

end Origin

/-- A dependency of one resource on another. -/
structure Dependency where
  /-- The id of the resource that has to be there first. -/
  target : String
  /-- The flavour of the dependency. -/
  type : DependencyType
  /-- Where the dependency comes from. -/
  origin : Origin
deriving DecidableEq

/-- A resource of an architecture. -/
structure Resource where
  /-- The name by which links refer to the resource. -/
  id : String
  /-- The type. -/
  typeName : String
  /-- The name that is shown. -/
  name : String
  /-- The metadata. -/
  config : Metadata := []
  /-- The ids of the containers. -/
  parents : List String := []
  /-- The ids of the contents. -/
  children : List String := []
  /-- The dependencies. -/
  dependsOn : List Dependency := []
  /-- The resource was added by a hidden rule. -/
  synthesized : Bool := false

namespace Resource

/-- A resource without links that is shown by its id. -/
def ofType (id typeName : String) : Resource :=
  { id, typeName, name := id }

/-- The id of the container: the first one. -/
def parent? (resource : Resource) : Option String :=
  resource.parents.head?

/-- The ids of the resources that this one depends on. -/
def targets (resource : Resource) : List String :=
  resource.dependsOn.map (·.target)

/-- The text in a field of the metadata, if it holds a text. -/
def text? (resource : Resource) (key : String) : Option String :=
  (resource.config.lookup key).bind Json.Value.text?

/-- The resource with a field of its metadata set. -/
def setConfig (resource : Resource) (key : String) (value : Json.Value) : Resource :=
  { resource with config := Json.Members.insert key value resource.config }

/-- Two resources are the same. -/
def same (left right : Resource) : Bool :=
  left.id == right.id && left.typeName == right.typeName && left.name == right.name &&
    Json.Value.sameMembers left.config right.config && left.parents == right.parents &&
    left.children == right.children && left.dependsOn == right.dependsOn &&
    left.synthesized == right.synthesized

end Resource

/-- The resources of a deployment. -/
structure Architecture where
  /-- The provider. -/
  provider : Provider
  /-- The region. -/
  region : String
  /-- The resources. -/
  resources : List Resource := []
  /-- The resources stand in an order in which they can be provided. -/
  ordered : Bool := false
  /-- The graph that the architecture was made from, if there is one. -/
  graph : Option Graph := none

namespace Architecture

/-- The first resource with an id. -/
def resource? (architecture : Architecture) (id : String) : Option Resource :=
  architecture.resources.find? (·.id == id)

/-- The ids of the resources, in their order. -/
def ids (architecture : Architecture) : List String :=
  architecture.resources.map (·.id)

/-- The resources of a list with the first one of an id changed. -/
def modifyFirst (id : String) (change : Resource → Resource) : List Resource → List Resource
  | [] => []
  | resource :: rest =>
    if resource.id = id then
      change resource :: rest
    else
      resource :: modifyFirst id change rest

/-- Two architectures are the same but for the graphs they were made from. -/
def same (left right : Architecture) : Bool :=
  left.provider == right.provider && left.region == right.region &&
    left.ordered == right.ordered && left.resources.length == right.resources.length &&
    (left.resources.zip right.resources).all fun pair => pair.1.same pair.2

/-- What a link leads to, seen from the resource that declares it. -/
inductive Relation where
  | parent
  | child
  | dependency
deriving DecidableEq

/-- How a relation is named in messages. -/
def Relation.name : Relation → String
  | parent => "parent"
  | child => "child"
  | dependency => "dependency"

/-- Why an architecture cannot be made, completed or ordered. -/
inductive Error where
  | type (error : Catalog.Error)
  | expression (error : Expression.Error)
  | unknownLink (resource : String) (relation : Relation) (target : String)
  | vanished (resource : String)
  | cyclic (cycle : List String)

namespace Error

/-- The resource that a cycle is reported for. -/
def cycleStart (cycle : List String) : String :=
  cycle.headD ""

/-- The stable name of the kind of error. -/
def code : Error → String
  | type _ => "UnknownResourceType"
  | expression _ => "InvalidExpression"
  | unknownLink _ _ _ => "InvalidArchitecture"
  | vanished _ => "InvalidArchitecture"
  | cyclic _ => "CyclicDependency"

/-- The message of an error. -/
def message : Error → String
  | type error => error.message
  | expression error => error.message
  | unknownLink resource relation target =>
    "Invalid architecture: resource '" ++ resource ++ "' references unknown " ++
      relation.name ++ " '" ++ target ++ "'"
  | vanished resource => "Invalid architecture: resource '" ++ resource ++ "' vanished"
  | cyclic cycle =>
    "Cyclic dependency involving resource '" ++ cycleStart cycle ++ "' (" ++
      " -> ".intercalate cycle ++ ")"

end Error

end Architecture

end CloudPlan
