import CloudPlan.Proofs.Terraform.Project

/-!
# Which architectures are generated

In a compliant architecture subnets and route tables lie in private networks, and the
functions that say nothing about a role depend on one.  All of its resources can be
mapped but the functions that say something about a role without naming any.
-/

namespace CloudPlan.Terraform.Aws

open Code

variable {architecture other : Architecture} {resource : Resource}

/-- A resource depends on a role of the architecture. -/
def DependsOnRole (architecture : Architecture) (resource : Resource) : Prop :=
  ∃ role ∈ architecture.resources, role.typeName = "IAMRole" ∧ role.id ∈ resource.targets

/-- What a diagram is checked for and what hidden rules see to, as far as mappers need it. -/
structure Compliant (architecture : Architecture) : Prop where
  /-- There are mappers for all types. -/
  known : ∀ resource ∈ architecture.resources, (mappers.lookup resource.typeName).isSome
  /-- Subnets and route tables lie in private networks. -/
  placed : ∀ resource ∈ architecture.resources, resource.typeName ∈ ["Subnet", "RouteTable"] →
    ∃ network ∈ architecture.resources,
      network.typeName = "VPC" ∧ resource.parent? = some network.id
  /-- Functions for which no role is named, or null is, depend on a role. -/
  served : ∀ resource ∈ architecture.resources, resource.typeName = "Lambda" →
    (∀ value ∈ resource.config.lookup "role_arn", value = .null) →
    DependsOnRole architecture resource

/-- A function that depends on no role, with metadata that name none and still say something
else than null about it. -/
structure Roleless (architecture : Architecture) (resource : Resource) : Prop where
  /-- It is a function. -/
  isFunction : resource.typeName = "Lambda"
  /-- What stands for the name of the role is neither a text nor null. -/
  misnamed : ∃ value ∈ resource.config.lookup "role_arn", value ≠ .null ∧ value.text? = none
  /-- It depends on no role. -/
  unserved : ¬DependsOnRole architecture resource

/-- The order of the resources does not matter. -/
theorem Compliant.of_perm
    (compliant : Compliant architecture)
    (resources : other.resources.Perm architecture.resources) :
    Compliant other := by
  constructor
  case known => simpa only [resources.mem_iff] using compliant.known
  case placed => simpa only [resources.mem_iff] using compliant.placed
  case served => simpa only [DependsOnRole, resources.mem_iff] using compliant.served

theorem roleless_iff_of_perm
    (resources : other.resources.Perm architecture.resources) :
    Roleless other resource ↔ Roleless architecture resource := by
  have serves : DependsOnRole other resource ↔ DependsOnRole architecture resource := by
    simp only [DependsOnRole, resources.mem_iff]
  constructor
  · rintro ⟨isFunction, misnamed, unserved⟩
    exact ⟨isFunction, misnamed, mt serves.2 unserved⟩
  · rintro ⟨isFunction, misnamed, unserved⟩
    exact ⟨isFunction, misnamed, mt serves.1 unserved⟩

theorem dependsOnRole_iff
    (distinct : architecture.ids.Nodup) :
    DependsOnRole architecture resource ↔
      (contextOf architecture).dependencies resource "IAMRole" ≠ [] := by
  have isDependency (role : Resource) :
      role ∈ (contextOf architecture).dependencies resource "IAMRole" ↔
        role ∈ architecture.resources ∧ role.typeName = "IAMRole" ∧ role.id ∈ resource.targets :=
    Context.mem_dependencies_iff distinct
  constructor
  · rintro ⟨role, serves⟩
    exact List.ne_nil_of_mem ((isDependency role).2 serves)
  · intro nonempty
    obtain ⟨role, serves⟩ := List.exists_mem_of_ne_nil _ nonempty
    exact ⟨role, (isDependency role).1 serves⟩

/-- The private network around a subnet or a route table is found. -/
theorem Compliant.exists_network
    (compliant : Compliant architecture)
    (distinct : architecture.ids.Nodup)
    (member : resource ∈ architecture.resources)
    (needsNetwork : resource.typeName ∈ ["Subnet", "RouteTable"]) :
    ((contextOf architecture).ancestor? resource "VPC").isSome := by
  obtain ⟨network, networkMember, typed, isParent⟩ := compliant.placed resource member needsNetwork
  have isContainer : (contextOf architecture).container? resource = some network := by
    rw [Context.container?, isParent]
    exact (find?_name_eq_some_iff distinct).2 ⟨networkMember, rfl⟩
  rw [Context.ancestor?_of_container? isContainer typed]
  rfl

/-- All resources of a compliant architecture are ready but the functions that lack a role. -/
theorem Compliant.ready_iff
    (compliant : Compliant architecture)
    (distinct : architecture.ids.Nodup)
    (member : resource ∈ architecture.resources) :
    Ready (contextOf architecture) resource ↔ ¬Roleless architecture resource := by
  have serves : DependsOnRole architecture resource ↔ _ := dependsOnRole_iff distinct
  constructor
  · rintro ready ⟨isFunction, ⟨value, given, _, noText⟩, unserved⟩
    rw [Option.mem_def] at given
    rcases ready.role isFunction with named | depends
    · simp [Resource.text?, given, noText] at named
    · exact unserved (serves.2 depends)
  · intro served
    refine ⟨compliant.exists_network distinct member, fun isFunction => ?_⟩
    by_contra! unready
    obtain ⟨unnamed, alone⟩ := unready
    have unserved : ¬DependsOnRole architecture resource := fun depends => serves.1 depends alone
    cases given : resource.config.lookup "role_arn" with
    | none => exact unserved (compliant.served resource member isFunction (by simp [given]))
    | some value =>
        have noText : value.text? = none := by
          simpa [Resource.text?, given] using unnamed
        refine served ⟨isFunction, ⟨value, given, ?_, noText⟩, unserved⟩
        rintro rfl
        exact unserved (compliant.served resource member isFunction (by simp [given]))

/-- A compliant architecture can be mapped exactly when no function lacks a role. -/
theorem Compliant.mappable_iff
    (compliant : Compliant architecture)
    (distinct : architecture.ids.Nodup) :
    Mappable architecture ↔
      ∀ resource ∈ architecture.resources, ¬Roleless architecture resource := by
  refine forall₂_congr fun resource member => ?_
  rw [← compliant.ready_iff distinct member]
  exact mapResource_succeeds_iff (named_context writer architecture) member
    (compliant.known resource member)

end CloudPlan.Terraform.Aws
