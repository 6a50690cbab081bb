import CloudPlan.Code.Context
import CloudPlan.Proofs.Architecture.Precedence
import CloudPlan.Proofs.Lookup
import Mathlib.Data.List.Basic

/-!
# What surrounds a resource

Whatever is found around a resource is a resource of the architecture, of the type that
was asked for.  What contains the resource and what it depends on precede it, and it
precedes what it contains.
-/

namespace CloudPlan.Code.Context

open Relation (TransGen)

variable {context : Context} {resource found : Resource} {typeName : String}

theorem mem_of_resource?
    {id : String}
    (isFound : context.resource? id = some found) :
    found ∈ context.architecture.resources :=
  List.mem_of_find?_eq_some isFound

theorem mem_of_container?
    (isFound : context.container? resource = some found) :
    found ∈ context.architecture.resources := by
  obtain ⟨id, _, isResource⟩ := Option.bind_eq_some_iff.1 isFound
  exact mem_of_resource? isResource

theorem mem_of_ancestorWithin
    {steps : Nat}
    (isFound : context.ancestorWithin typeName steps resource = some found) :
    found ∈ context.architecture.resources ∧ found.typeName = typeName := by
  induction steps generalizing resource with
  | zero => contradiction
  | succ steps inductionHypothesis =>
      rw [ancestorWithin] at isFound
      split at isFound
      next => contradiction
      next parent isParent =>
        split at isFound
        next ofType =>
          cases isFound
          exact ⟨mem_of_container? isParent, ofType⟩
        next => exact inductionHypothesis isFound

theorem mem_of_ancestor?
    (isFound : context.ancestor? resource typeName = some found) :
    found ∈ context.architecture.resources ∧ found.typeName = typeName :=
  mem_of_ancestorWithin isFound

theorem mem_of_mem_ofType
    {ids : List String}
    (member : found ∈ context.ofType ids typeName) :
    found ∈ context.architecture.resources ∧ found.typeName = typeName := by
  obtain ⟨listed, ofType⟩ := List.mem_filter.1 member
  obtain ⟨id, _, isFound⟩ := List.mem_filterMap.1 listed
  exact ⟨mem_of_resource? isFound, beq_iff_eq.1 ofType⟩

theorem mem_of_mem_children
    (member : found ∈ context.children resource typeName) :
    found ∈ context.architecture.resources ∧ found.typeName = typeName :=
  mem_of_mem_ofType member

theorem mem_of_mem_dependencies
    (member : found ∈ context.dependencies resource typeName) :
    found ∈ context.architecture.resources ∧ found.typeName = typeName :=
  mem_of_mem_ofType member

theorem resource?_eq_some_iff
    (distinct : context.architecture.ids.Nodup)
    {id : String} :
    context.resource? id = some found ↔
      found ∈ context.architecture.resources ∧ found.id = id :=
  find?_name_eq_some_iff distinct

/-- A container of the type that is asked for is the nearest one. -/
theorem ancestor?_of_container?
    (isContainer : context.container? resource = some found)
    (ofType : found.typeName = typeName) :
    context.ancestor? resource typeName = some found := by
  simp [ancestor?, ancestorWithin, isContainer, ofType]

theorem mem_ofType_iff
    (distinct : context.architecture.ids.Nodup)
    {ids : List String} :
    found ∈ context.ofType ids typeName ↔
      found ∈ context.architecture.resources ∧ found.typeName = typeName ∧ found.id ∈ ids := by
  simp only [ofType, List.mem_filter, List.mem_filterMap, resource?_eq_some_iff distinct,
    beq_iff_eq]
  constructor
  · rintro ⟨⟨_, isListed, member, rfl⟩, typed⟩
    exact ⟨member, typed, isListed⟩
  · rintro ⟨member, typed, isListed⟩
    exact ⟨⟨_, isListed, member, rfl⟩, typed⟩

theorem mem_dependencies_iff
    (distinct : context.architecture.ids.Nodup) :
    found ∈ context.dependencies resource typeName ↔
      found ∈ context.architecture.resources ∧ found.typeName = typeName ∧
        found.id ∈ resource.targets :=
  mem_ofType_iff distinct

theorem mem_children_iff
    (distinct : context.architecture.ids.Nodup) :
    found ∈ context.children resource typeName ↔
      found ∈ context.architecture.resources ∧ found.typeName = typeName ∧
        found.id ∈ resource.children :=
  mem_ofType_iff distinct

/-! ## What precedes what -/

theorem id_of_resource?
    {id : String}
    (isFound : context.resource? id = some found) :
    found.id = id := by
  simpa using List.find?_some isFound

/-- Different ids lead to different resources. -/
theorem nodup_filterMap_resource?
    {ids : List String}
    (apart : ids.Nodup) :
    (ids.filterMap context.resource?).Nodup := by
  refine apart.filterMap ?_
  intro first second found isFirst isSecond
  rw [← id_of_resource? isFirst, id_of_resource? isSecond]

theorem nodup_children
    (apart : resource.children.Nodup) :
    (context.children resource typeName).Nodup :=
  (nodup_filterMap_resource? apart).filter _

theorem id_mem_of_mem_ofType
    {ids : List String}
    (member : found ∈ context.ofType ids typeName) :
    found.id ∈ ids := by
  obtain ⟨id, isListed, isFound⟩ := List.mem_filterMap.1 (List.mem_of_mem_filter member)
  rw [id_of_resource? isFound]
  exact isListed

theorem precedes_of_container?
    (member : resource ∈ context.architecture.resources)
    (isFound : context.container? resource = some found) :
    context.architecture.Precedes found.id resource.id := by
  obtain ⟨id, isParent, isResource⟩ := Option.bind_eq_some_iff.1 isFound
  rw [id_of_resource? isResource]
  exact .parent member (List.mem_of_mem_head? isParent)

/-- Every container on the way up precedes the resource. -/
theorem precedes_of_ancestor?
    (member : resource ∈ context.architecture.resources)
    (isFound : context.ancestor? resource typeName = some found) :
    TransGen context.architecture.Precedes found.id resource.id := by
  have within (steps : Nat) :
      ∀ resource ∈ context.architecture.resources,
        context.ancestorWithin typeName steps resource = some found →
        TransGen context.architecture.Precedes found.id resource.id := by
    induction steps with
    | zero =>
        intro resource _ isFound
        contradiction
    | succ steps inductionHypothesis =>
        intro resource member isFound
        rw [ancestorWithin] at isFound
        split at isFound
        next => contradiction
        next parent isParent =>
          have precedes := precedes_of_container? member isParent
          split at isFound
          next =>
            cases isFound
            exact .single precedes
          next =>
            have above := inductionHypothesis parent (mem_of_container? isParent) isFound
            exact above.tail precedes
  exact within _ resource member isFound

theorem precedes_of_mem_dependencies
    (member : resource ∈ context.architecture.resources)
    (isFound : found ∈ context.dependencies resource typeName) :
    context.architecture.Precedes found.id resource.id :=
  .dependency member (id_mem_of_mem_ofType isFound)

theorem precedes_of_mem_children
    (member : resource ∈ context.architecture.resources)
    (isFound : found ∈ context.children resource typeName) :
    context.architecture.Precedes resource.id found.id :=
  .child member (id_mem_of_mem_ofType isFound)

end CloudPlan.Code.Context
