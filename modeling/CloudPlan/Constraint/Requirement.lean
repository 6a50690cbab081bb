import CloudPlan.Constraint.Basic
import CloudPlan.Json.Decode
import CloudPlan.Json.Reader
import CloudPlan.Text.Digits
import CloudPlan.Text.LetterCase

/-!
# What constraints require

The meaning of a constraint.  A constraint of an unknown kind or with a value that
its kind cannot use requires nothing.
-/

namespace CloudPlan

open Json

/-- Names in a JSON list of texts, or one bare name without blanks. -/
def typeNames? (value : String) : Option (List String) :=
  let trimmed := Text.trim value
  if trimmed.toList.head? = some '[' then do
    list? Json.text? (Nested.mk (← Tree.ofText? trimmed) mostNested)
  else if trimmed = "" ∨ trimmed.toList.any Text.isBlank then
    none
  else
    some [trimmed]

/-- A bound on the number of contents. -/
structure ChildBound where
  /-- The type of the contents that count; all of them if none is named. -/
  childType : Option String := none
  /-- The bound. -/
  count : Nat
deriving DecidableEq

/-- A number, or a type and a number with a colon between them. -/
def ChildBound.parse? (value : String) : Option ChildBound :=
  let chars := value.toList
  let before := Text.trimChars (chars.takeWhile (· != ':'))
  match chars.dropWhile (· != ':') with
  | [] => (Text.word? value).map ({ count := · })
  | _ :: after =>
    if before = [] then
      none
    else
      (Text.word? (String.ofList (Text.trimChars after))).map
        ({ childType := some (String.ofList before), count := · })

/-- What a constraint requires of a resource. -/
inductive Requirement where
  /-- It is contained in a resource, of one of the types if some are given. -/
  | contained (allowed : Option (List String))
  /-- What contains it, if anything does, is of one of the types. -/
  | containedOnlyIn (allowed : List String)
  /-- There is a region. -/
  | region
  /-- It contains no more than so many resources. -/
  | atMost (bound : ChildBound)
  /-- It contains no fewer than so many resources. -/
  | atLeast (bound : ChildBound)
  /-- It depends only on the types, or in the flavours, that are listed. -/
  | dependsOnlyOn (listed : List String)
  /-- It depends on none of the types, and in none of the flavours, that are listed. -/
  | neverDependsOn (listed : List String)
deriving DecidableEq

namespace Requirement

/-- The requirement of a kind with a value. -/
def ofKind? (kind : ConstraintKind) (value : String) : Option Requirement :=
  match kind with
  | .requiresParent =>
    match Text.lowerAscii value with
    | "false" => none
    | "" | "true" => some (.contained none)
    | _ => (typeNames? value).map fun names => .contained (some names)
  | .allowedParent => (typeNames? value).map .containedOnlyIn
  | .requiresRegion => if Text.lowerAscii value = "true" then some .region else none
  | .maxChildren => (ChildBound.parse? value).map .atMost
  | .minChildren => (ChildBound.parse? value).map .atLeast
  | .allowedDependencies => (typeNames? value).map .dependsOnlyOn
  | .forbiddenDependencies => (typeNames? value).map .neverDependsOn

end Requirement

/-- What a constraint requires, if it requires anything. -/
def Constraint.requirement? (constraint : Constraint) : Option Requirement :=
  constraint.kind?.bind fun kind => Requirement.ofKind? kind (Text.trim constraint.value)

end CloudPlan
