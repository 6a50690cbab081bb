import CloudPlan.Architecture.Basic

/-!
# Surroundings of a resource

What a resource is surrounded by in its architecture, and the identifiers of
resources.
-/

namespace CloudPlan.Code

/-- An architecture whose resources have identifiers. -/
structure Context where
  /-- The architecture. -/
  architecture : Architecture
  /-- The identifiers by the ids of resources; of one id the last counts. -/
  names : List (String × String)

namespace Context

/-- The identifier of the resource with an id. -/
def localName? (context : Context) (id : String) : Option String :=
  context.names.reverse.lookup id

/-- The resource with an id. -/
def resource? (context : Context) (id : String) : Option Resource :=
  context.architecture.resource? id

/-- The resource that contains another one. -/
def container? (context : Context) (resource : Resource) : Option Resource :=
  resource.parent?.bind context.resource?

/-- The nearest resource of a type that contains another one, at most so many steps away. -/
def ancestorWithin (context : Context) (typeName : String) : Nat → Resource → Option Resource
  | 0, _ => none
  | steps + 1, resource =>
    match context.container? resource with
    | none => none
    | some parent =>
      if parent.typeName = typeName then
        some parent
      else
        ancestorWithin context typeName steps parent

/--
The nearest resource of a type that contains another one.  More steps than there are
resources lead nowhere new.
-/
def ancestor? (context : Context) (resource : Resource) (typeName : String) : Option Resource :=
  context.ancestorWithin typeName (context.architecture.resources.length + 1) resource

/-- The resources of some ids that are of a type. -/
def ofType (context : Context) (ids : List String) (typeName : String) : List Resource :=
  (ids.filterMap context.resource?).filter (·.typeName == typeName)

/-- What a resource contains of a type. -/
def children (context : Context) (resource : Resource) (typeName : String) : List Resource :=
  context.ofType resource.children typeName

/-- What a resource depends on of a type. -/
def dependencies (context : Context) (resource : Resource) (typeName : String) :
    List Resource :=
  context.ofType resource.targets typeName

/-- The resources that depend on another one. -/
def dependents (context : Context) (resource : Resource) : List Resource :=
  context.architecture.resources.filter fun other => other.targets.contains resource.id

end Context

end CloudPlan.Code
