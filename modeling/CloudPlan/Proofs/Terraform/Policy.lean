import CloudPlan.Proofs.Terraform.Literal
import CloudPlan.Proofs.Terraform.Mapping

/-!
# The service in the policy of a role

A role on which no function and no instance depends is for the service that its metadata
name.  The policy of the role has this name between quotes, and nothing in it is escaped.
So the name stands there as its literal exactly when nothing in it needs to be.
-/

namespace CloudPlan.Terraform.Aws

open Code

variable {context : Context} {role : Resource}

/-! ## Policies -/

/-- The policy that lets a service assume a role, with an expression for the service. -/
def policyFor (expression : String) : String :=
  "jsonencode(\x7b Version = \"2012-10-17\", Statement = [\x7b Action = \"sts:AssumeRole\", " ++
    "Effect = \"Allow\", Principal = \x7b Service = " ++ expression ++ " \x7d \x7d] \x7d)"

theorem policyFor_injective : Function.Injective policyFor := by
  intro left right same
  exact (String.append_right_inj _).1 ((String.append_left_inj _).1 same)

/-- The name of a service stands between quotes as it is. -/
theorem assumePolicy_eq_policyFor (service : String) :
    assumePolicy service = policyFor ("\"" ++ service ++ "\"") := by
  have opens : "Effect = \"Allow\", Principal = \x7b Service = \"" =
      "Effect = \"Allow\", Principal = \x7b Service = " ++ "\"" := by
    simp only [String.reduceAppend]
  have closes : "\" \x7d \x7d] \x7d)" = "\"" ++ " \x7d \x7d] \x7d)" := by
    simp only [String.reduceAppend]
  unfold assumePolicy policyFor
  rw [opens, closes]
  simp only [String.append_assoc]

/-- The policies that blocks give for roles to be assumed, as they are written. -/
def writtenPolicies (blocks : List Block) : List String :=
  (blocks.filterMap (·.attributes.lookup "assume_role_policy")).map Hcl.inlineValue

/-! ## Roles -/

/-- A role that neither functions nor instances depend on is for the service that it names. -/
theorem service_of_unused
    (unused : ∀ other ∈ context.architecture.resources,
      role.id ∈ other.targets → other.typeName ∉ ["Lambda", "EC2"])
    {given : String}
    (isGiven : role.text? "service" = some given) :
    service context role = given := by
  have noneUses : ((context.dependents role).findSome? fun dependent =>
      services.lookup dependent.typeName) = none := by
    rw [List.findSome?_eq_none_iff]
    intro other isDependent
    obtain ⟨member, depends⟩ := List.mem_filter.1 isDependent
    have noService := unused other member (List.contains_iff_mem.1 depends)
    simp only [List.mem_cons, List.not_mem_nil, or_false, not_or] at noService
    simpa [services, List.lookup_eq_none_iff] using noService
  rw [service, noneUses, isGiven]
  rfl

/-- The one policy of a role is that for the service, whichever service it is. -/
theorem exists_policy_of_iamRole
    (typed : role.typeName = "IAMRole")
    {name : String}
    (named : context.localName? role.id = some name) :
    ∃ blocks, iamRole role context = .ok blocks ∧
      writtenPolicies blocks = [assumePolicy (service context role)] := by
  have refers : refer context role "name" = .ok (.ofResource "aws_iam_role" name "name") := by
    have isKind : kind? role.typeName = some "aws_iam_role" := typed ▸ rfl
    rw [refer, isKind]
    simp only [localName_eq named]
    rfl
  simp only [iamRole, localName_eq named, refers, ok_bind]
  split
  · exact ⟨_, rfl, rfl⟩
  · exact ⟨_, rfl, rfl⟩

/-- The service that a role is given stands in the policy between quotes, and it stands there as
its literal exactly when nothing in it is escaped. -/
theorem policy_quotes_service_iff
    (typed : role.typeName = "IAMRole")
    {name : String}
    (named : context.localName? role.id = some name)
    (unused : ∀ other ∈ context.architecture.resources,
      role.id ∈ other.targets → other.typeName ∉ ["Lambda", "EC2"])
    {given : String}
    (isGiven : role.text? "service" = some given) :
    ∃ blocks policy, iamRole role context = .ok blocks ∧ writtenPolicies blocks = [policy] ∧
      policy = policyFor ("\"" ++ given ++ "\"") ∧
      (policy = policyFor (Hcl.quote given) ↔ Hcl.IsPlain given.toList) := by
  obtain ⟨blocks, made, isPolicy⟩ := exists_policy_of_iamRole typed named
  rw [service_of_unused unused isGiven] at isPolicy
  refine ⟨blocks, _, made, isPolicy, assumePolicy_eq_policyFor given, ?_⟩
  rw [assumePolicy_eq_policyFor, policyFor_injective.eq_iff, eq_comm]
  exact Hcl.quote_eq_between_quotes_iff given

/-- A role without dependents that is given a service. -/
def roleFor (service : String) : Resource :=
  { Resource.ofType "role" "IAMRole" with config := [("service", .text service)] }

/-- An architecture of one role, which is called as it is. -/
def roleAlone (service : String) : Context where
  architecture := { provider := .aws, region := "us-east-1", resources := [roleFor service] }
  names := [("role", "role")]

theorem unused_roleAlone (service : String) :
    ∀ other ∈ (roleAlone service).architecture.resources,
      (roleFor service).id ∈ other.targets → other.typeName ∉ ["Lambda", "EC2"] := by
  rintro other (_ | ⟨_, ⟨⟩⟩) depends
  exact absurd depends List.not_mem_nil

/-- Nothing is escaped in the name of a service with dots and hyphens. -/
theorem policy_quotes_tasks :
    ∃ blocks policy, iamRole (roleFor "ecs-tasks.amazonaws.com")
        (roleAlone "ecs-tasks.amazonaws.com") = .ok blocks ∧
      writtenPolicies blocks = [policy] ∧
      policy = policyFor (Hcl.quote "ecs-tasks.amazonaws.com") := by
  have unused := unused_roleAlone "ecs-tasks.amazonaws.com"
  obtain ⟨blocks, policy, made, isPolicy, _, quoted⟩ :=
    policy_quotes_service_iff rfl rfl unused rfl
  refine ⟨blocks, policy, made, isPolicy, quoted.2 ?_⟩
  rw [← Hcl.escapeAll_eq_self_iff]
  decide

/-- A quote in the name of a service ends the literal. -/
theorem policy_of_quote_ends_literal :
    ∃ blocks policy, iamRole (roleFor "a\"b") (roleAlone "a\"b") = .ok blocks ∧
      writtenPolicies blocks = [policy] ∧
      policy ≠ policyFor (Hcl.quote "a\"b") := by
  refine ⟨_, _, rfl, rfl, ?_⟩
  decide

end CloudPlan.Terraform.Aws
