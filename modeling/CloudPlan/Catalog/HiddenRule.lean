import CloudPlan.Catalog.Provider
import CloudPlan.Expression.Basic
import CloudPlan.Json.Decode

/-!
# Hidden rules

Rules for resources that another resource needs and that nobody draws.  A rule says
how many there are to be, and may say under which condition.
-/

namespace CloudPlan

open Json

/-- A rule for resources that go with a resource of some type. -/
structure HiddenRule where
  /-- The provider that the rule is for; nothing or a star stands for all. -/
  provider : String := ""
  /-- The type of the resource that needs others. -/
  parentType : String
  /-- The type of the resources that it needs. -/
  childType : String
  /-- How many it needs, as an expression over its metadata. -/
  quantity : String := "1"
  /-- When it needs them, as an expression over its metadata. -/
  condition : Option String := none
  /-- It contains what it needs; otherwise it depends on it. -/
  isAttached : Bool := false
deriving DecidableEq

namespace HiddenRule

/-- The rule applies to a resource with the given metadata.  No condition is always met. -/
def appliesTo (rule : HiddenRule) (metadata : Members) : Except Expression.Error Bool :=
  let condition := Text.trim (rule.condition.getD "")
  if condition = "" then
    .ok true
  else do
    (← Expression.parse condition).evaluateBool metadata

/-- How many resources the rule asks for.  No quantity means one. -/
def count (rule : HiddenRule) (metadata : Members) : Except Expression.Error Nat :=
  let quantity := Text.trim rule.quantity
  if quantity = "" then
    .ok 1
  else do
    (← Expression.parse quantity).evaluateQuantity metadata

/-- The fields of a rule. -/
def fields : List Field :=
  [⟨"provider", []⟩, ⟨"parentResourceType", []⟩, ⟨"childResourceType", []⟩,
    ⟨"quantityExpression", []⟩, ⟨"conditionExpression", []⟩, ⟨"isAttached", []⟩]

/-- The rule that a document gives. -/
def decode? {α : Type} [Source α] (source : α) : Option HiddenRule := do
  let given ← fields? fields source
  return {
    provider := ← optional given "provider" "" text?
    parentType := ← required given "parentResourceType" text?
    childType := ← required given "childResourceType" text?
    quantity := ← optional given "quantityExpression" "1" text?
    condition := ← optional given "conditionExpression" none (nullable? text?)
    isAttached := ← optional given "isAttached" false bool? }

/-- A rule as JSON. -/
def encode (rule : HiddenRule) : Value :=
  .object <|
    [("provider", .text rule.provider), ("parentResourceType", .text rule.parentType),
      ("childResourceType", .text rule.childType),
      ("quantityExpression", .text rule.quantity)] ++
      (rule.condition.map (("conditionExpression", .text ·))).toList ++
      [("isAttached", .bool rule.isAttached)]

end HiddenRule

end CloudPlan
