import CloudPlan.Constraint.Basic

/-!
# Stores of constraints

Where the constraints of a request come from.  A store may be out of order.
-/

namespace CloudPlan

/-- The constraints of a set on some types: each type once, in the order of first mention. -/
def ConstraintSet.select (set : ConstraintSet) (resourceTypes : List String) : ConstraintSet :=
  resourceTypes.eraseDups.flatMap set.forType

/-- A store of constraints. -/
structure ConstraintStore where
  /-- The constraints. -/
  constraints : ConstraintSet := []
  /-- Why the store is out of order, if it is. -/
  failure : Option String := none
  /-- How often the store has been asked. -/
  queries : Nat := 0

namespace ConstraintStore

/-- The store with one more constraint. -/
def add (store : ConstraintStore) (constraint : Constraint) : ConstraintStore :=
  { store with constraints := store.constraints ++ [constraint] }

/-- The answer to a query about a type, or why there is none, and the store after it. -/
def find (store : ConstraintStore) (resourceType : String) :
    Except String ConstraintSet × ConstraintStore :=
  let after := { store with queries := store.queries + 1 }
  match store.failure with
  | some failure => (.error failure, after)
  | none => (.ok (store.constraints.forType resourceType), after)

/-- Asks about types one after the other until a query fails. -/
def findAll (store : ConstraintStore) :
    List String → Except String ConstraintSet × ConstraintStore
  | [] => (.ok [], store)
  | resourceType :: rest =>
    match store.find resourceType with
    | (.error failure, after) => (.error failure, after)
    | (.ok found, after) =>
      match findAll after rest with
      | (.error failure, final) => (.error failure, final)
      | (.ok more, final) => (.ok (found ++ more), final)

/-- The constraints on some types; each type is asked about once. -/
def fetch (store : ConstraintStore) (resourceTypes : List String) :
    Except String ConstraintSet × ConstraintStore :=
  store.findAll resourceTypes.eraseDups

/-- The store in one line. -/
def summary (store : ConstraintStore) : String :=
  "InMemoryConstraintStore \x7b constraints: " ++ toString store.constraints.length ++
    ", failing: " ++ toString store.failure.isSome ++ " \x7d"

end ConstraintStore

end CloudPlan
