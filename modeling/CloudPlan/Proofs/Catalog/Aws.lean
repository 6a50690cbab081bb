import CloudPlan.Catalog.Aws
import CloudPlan.Proofs.Catalog.Keys
import CloudPlan.Proofs.Catalog.Resolution
import CloudPlan.Proofs.Expression.Grammar

/-!
# The AWS catalogue

What its rules add is of one of three types.  The rule for functions asks for one role,
and it applies exactly to the functions whose metadata say nothing about a role or null.
It looks at nothing else in them.  The rule for instances needs to be told a size, and asks for
one volume if it is told no number of them.
-/

namespace CloudPlan.Catalog

namespace Aws

open Expression

theorem lambdaRule_mem_rules : ("Lambda", lambdaRule) ∈ builtIn.rules := by
  decide

theorem covers_lambdaRule : Provider.covers lambdaRule.provider .aws = true := by
  decide

/-- What rules add is of one of three types. -/
theorem childType_mem_of_mem_rules :
    ∀ entry ∈ builtIn.rules, entry.2.childType ∈ ["ElasticIP", "EBSVolume", "IAMRole"] := by
  decide

/-! ## Fields of the metadata -/

/-- What the metadata say under a name. -/
def metadataField (name : String) : Tree :=
  .field "metadata".toList [name.toList]

theorem writtenAs_metadataField
    (name : String)
    (isName : IsIdentifier name.toList)
    (bound : Nat) :
    (metadataField name).WrittenAs bound ("metadata".toList ++ '.' :: name.toList) := by
  have first : IsIdentifier ['m', 'e', 't', 'a', 'd', 'a', 't', 'a'] :=
    .intro (by decide) (by simp)
  have nothing : IsBlanks [] := by simp [IsBlanks]
  have path : PathWrittenAs [name.toList] ('.' :: (name.toList ++ [])) :=
    .cons nothing nothing isName .nil
  rw [List.append_nil] at path
  have field : AtomWrittenAs (metadataField name) ("metadata".toList ++ '.' :: name.toList) :=
    .field first (by decide) path
  rw [← List.nil_append ("metadata".toList ++ _)]
  exact .atom nothing field

theorem evaluate_metadataField
    (metadata : Json.Members)
    (name : String) :
    (metadataField name).evaluate metadata =
      .ok (((metadata.lookup name).map Value.ofJson).getD .null) := by
  have lookup_eq : lookup metadata "metadata".toList [name.toList] =
      follow metadata name.toList [] := rfl
  rw [metadataField, Tree.evaluate, lookup_eq, follow, String.ofList_toList]
  cases metadata.lookup name <;> rfl

/-! ## The rule for functions -/

/-- What the metadata of a function say about its role. -/
def roleField : Tree :=
  .field "metadata".toList ["role_arn".toList]

theorem spells_condition :
    Spells "metadata.role_arn == null".toList (.binary .equal roleField (.literal .null)) := by
  have isName : IsIdentifier ['r', 'o', 'l', 'e', '_', 'a', 'r', 'n'] :=
    .intro (by decide) (by simp)
  have blank : IsBlanks [' '] := by simp [IsBlanks]
  have field := writtenAs_metadataField "role_arn" isName BinaryOp.equal.leftBound
  have null : (Tree.literal .null).WrittenAs (BinaryOp.equal.looseness - 1) " null".toList :=
    .atom blank (.literal .null)
  exact ⟨_, [], .binary (by decide) field blank null, by simp [IsBlanks], rfl⟩

theorem parse_condition :
    parse "metadata.role_arn == null" =
      .ok ⟨"metadata.role_arn == null", .binary .equal roleField (.literal .null)⟩ := by
  rw [parse, tree_eq_ok_iff_spells.2 spells_condition]

theorem trim_condition : Text.trim "metadata.role_arn == null" = "metadata.role_arn == null" := by
  decide +kernel

theorem parse_quantity : parse (Text.trim "1") = .ok ⟨"1", .literal (.number "1".toList)⟩ := by
  have trimmed : Text.trim "1" = "1" := by decide +kernel
  have digits : IsDigits "1".toList := ⟨by simp, by simp⟩
  rw [trimmed, parse_of_isDigits digits]

/-- The rule for functions looks at nothing but the role. -/
theorem keys_lambdaRule : lambdaRule.keys = ["role_arn"] := by
  simp only [HiddenRule.keys, keysOf, lambdaRule, Option.getD_some, trim_condition,
    parse_condition, parse_quantity]
  rfl

theorem evaluate_roleField (metadata : Json.Members) :
    roleField.evaluate metadata =
      .ok (((metadata.lookup "role_arn").map Value.ofJson).getD .null) :=
  evaluate_metadataField metadata "role_arn"

theorem looselyEqual_null_iff (value : Json.Value) :
    (Value.ofJson value).looselyEqual .null = true ↔ value = .null := by
  cases value <;> simp [Value.ofJson, Value.looselyEqual, Value.number?]

theorem appliesTo_lambdaRule (metadata : Json.Members) :
    lambdaRule.appliesTo metadata = .ok
      ((((metadata.lookup "role_arn").map Value.ofJson).getD .null).looselyEqual .null) := by
  have evaluated : (Tree.binary .equal roleField (.literal .null)).evaluate metadata =
      .ok (.bool ((((metadata.lookup "role_arn").map Value.ofJson).getD .null).looselyEqual
        .null)) := by
    rw [Tree.evaluate, evaluate_roleField]
    rfl
  simp only [HiddenRule.appliesTo, lambdaRule, Option.getD_some, trim_condition, parse_condition,
    ok_bind, evaluateBool, Expression.evaluate, evaluated]
  rfl

/-- The rule for functions applies where no role is named, or null is. -/
theorem appliesTo_lambdaRule_iff (metadata : Json.Members) :
    lambdaRule.appliesTo metadata = .ok true ↔
      ∀ value ∈ metadata.lookup "role_arn", value = .null := by
  rw [appliesTo_lambdaRule]
  cases metadata.lookup "role_arn" with
  | none => simp [Value.looselyEqual]
  | some value => simp [looselyEqual_null_iff]

/-- The rule for functions asks for one role. -/
theorem count_lambdaRule (metadata : Json.Members) : lambdaRule.count metadata = .ok 1 := by
  have notEmpty : Text.trim "1" ≠ "" := by decide +kernel
  simp only [HiddenRule.count, lambdaRule, if_neg notEmpty, parse_quantity]
  rfl

/-! ## The rule for instances -/

/-- When the rule for instances applies. -/
def instanceCondition : Tree :=
  .binary .greater (metadataField "extra_volume_gb") (.literal (.number ['0']))

theorem spells_instanceCondition :
    Spells "metadata.extra_volume_gb > 0".toList instanceCondition := by
  have isName : IsIdentifier
      ['e', 'x', 't', 'r', 'a', '_', 'v', 'o', 'l', 'u', 'm', 'e', '_', 'g', 'b'] :=
    .intro (by decide) (by simp)
  have blank : IsBlanks [' '] := by simp [IsBlanks]
  have digits : IsDigits ['0'] := ⟨by simp, by simp⟩
  have field := writtenAs_metadataField "extra_volume_gb" isName BinaryOp.greater.leftBound
  have zero : (Tree.literal (.number ['0'])).WrittenAs (BinaryOp.greater.looseness - 1)
      " 0".toList :=
    .atom blank (.literal (.number (.inl digits)))
  exact ⟨_, [], .binary (by decide) field blank zero, by simp [IsBlanks], rfl⟩

theorem appliesTo_instanceRule_of_evaluate
    {metadata : Json.Members}
    {truth : Bool}
    (evaluated : instanceCondition.evaluate metadata = .ok (.bool truth)) :
    instanceRule.appliesTo metadata = .ok truth := by
  have trimmed : Text.trim "metadata.extra_volume_gb > 0" = "metadata.extra_volume_gb > 0" := by
    decide +kernel
  have parsed : parse "metadata.extra_volume_gb > 0" =
      .ok ⟨"metadata.extra_volume_gb > 0", instanceCondition⟩ := by
    rw [parse, tree_eq_ok_iff_spells.2 spells_instanceCondition]
  simp only [HiddenRule.appliesTo, instanceRule, Option.getD_some, trimmed, parsed, ok_bind,
    evaluateBool, Expression.evaluate, evaluated]
  rfl

/-- The rule for instances does not apply where nothing is said about the size of volumes. -/
theorem not_appliesTo_instanceRule
    {metadata : Json.Members}
    (unsaid : metadata.lookup "extra_volume_gb" = none) :
    instanceRule.appliesTo metadata = .ok false := by
  apply appliesTo_instanceRule_of_evaluate
  rw [instanceCondition, Tree.evaluate, evaluate_metadataField, unsaid]
  rfl

/-- It applies where the size of volumes is a positive number. -/
theorem appliesTo_instanceRule
    {metadata : Json.Members}
    {size : Json.Number}
    (said : metadata.lookup "extra_volume_gb" = some (.number size))
    (positive : Value.orderFloats size.toFloat 0.0 = some .gt) :
    instanceRule.appliesTo metadata = .ok true := by
  have zero : Tree.evaluate metadata (.literal (.number ['0'])) = .ok (.number 0.0) := rfl
  have greater : Value.apply .greater (.number size.toFloat) (.number 0.0) =
      .ok (.bool ((Value.orderFloats size.toFloat 0.0).map (· == .gt) |>.getD false)) := rfl
  rw [positive] at greater
  apply appliesTo_instanceRule_of_evaluate
  rw [instanceCondition, Tree.evaluate, evaluate_metadataField, said, zero]
  exact greater

/-- How many volumes the rule asks for. -/
def instanceQuantity : Tree :=
  .binary .coalesce (metadataField "extra_volume_count") (.literal (.number ['1']))

theorem spells_instanceQuantity :
    Spells "metadata.extra_volume_count ?? 1".toList instanceQuantity := by
  have isName : IsIdentifier
      ['e', 'x', 't', 'r', 'a', '_', 'v', 'o', 'l', 'u', 'm', 'e', '_', 'c', 'o', 'u', 'n', 't'] :=
    .intro (by decide) (by simp)
  have blank : IsBlanks [' '] := by simp [IsBlanks]
  have digits : IsDigits ['1'] := ⟨by simp, by simp⟩
  have field := writtenAs_metadataField "extra_volume_count" isName BinaryOp.coalesce.leftBound
  have one : (Tree.literal (.number ['1'])).WrittenAs (BinaryOp.coalesce.looseness - 1)
      " 1".toList :=
    .atom blank (.literal (.number (.inl digits)))
  exact ⟨_, [], .binary (by decide) field blank one, by simp [IsBlanks], rfl⟩

/-- It asks for one volume where nothing is said about their number. -/
theorem count_instanceRule
    {metadata : Json.Members}
    (unsaid : metadata.lookup "extra_volume_count" = none) :
    instanceRule.count metadata = .ok 1 := by
  have trimmed : Text.trim "metadata.extra_volume_count ?? 1" =
      "metadata.extra_volume_count ?? 1" := by
    decide +kernel
  have parsed : parse "metadata.extra_volume_count ?? 1" =
      .ok ⟨"metadata.extra_volume_count ?? 1", instanceQuantity⟩ := by
    rw [parse, tree_eq_ok_iff_spells.2 spells_instanceQuantity]
  have evaluated : instanceQuantity.evaluate metadata = .ok (.number 1.0) := by
    rw [instanceQuantity, Tree.evaluate, evaluate_metadataField, unsaid]
    rfl
  simp only [HiddenRule.count, instanceRule, trimmed, parsed, ok_bind,
    evaluateQuantity, Expression.evaluate, evaluated]
  rfl

end Aws

end CloudPlan.Catalog
