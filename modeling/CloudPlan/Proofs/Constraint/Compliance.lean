import CloudPlan.Constraint.Store
import CloudPlan.Constraint.Violation
import CloudPlan.Proofs.Outcome
import CloudPlan.Proofs.Sequence

/-!
# Graphs without violations

A store that is in order gives the constraints on the types it is asked about, each type's
in their own order, and what it leaves out violates nothing.  Nothing is wrong with a graph
exactly when every node of a known type meets what the constraints on its type require, and
the nodes that do not are those that are reported.
-/

namespace CloudPlan

/-! ## Constraints from a store -/

theorem ConstraintSet.mem_select_iff
    {set : ConstraintSet}
    {resourceTypes : List String}
    {constraint : Constraint} :
    constraint ∈ set.select resourceTypes ↔
      constraint ∈ set ∧ constraint.resourceType ∈ resourceTypes := by
  simp only [ConstraintSet.select, ConstraintSet.forType, List.mem_flatMap, List.mem_eraseDups,
    List.mem_filter, beq_iff_eq]
  constructor
  · rintro ⟨_, listed, member, rfl⟩
    exact ⟨member, listed⟩
  · rintro ⟨member, listed⟩
    exact ⟨_, listed, member, rfl⟩

/-- Of a type that is asked about all constraints are given, in their order. -/
theorem ConstraintSet.forType_select
    (set : ConstraintSet)
    (resourceTypes : List String)
    (resourceType : String) :
    (set.select resourceTypes).forType resourceType =
      if resourceType ∈ resourceTypes then set.forType resourceType else [] := by
  have ofOne (other : String) :
      (set.forType other).filter (·.resourceType == resourceType) =
        if other = resourceType then set.forType resourceType else [] := by
    rw [forType, List.filter_filter]
    split
    next same =>
      subst same
      simp [forType]
    next different =>
      rw [List.filter_eq_nil_iff]
      rintro constraint - ofBoth
      simp only [Bool.and_eq_true, beq_iff_eq] at ofBoth
      exact different (ofBoth.2.symm.trans ofBoth.1)
  rw [select, forType, List.filter_flatMap]
  simp only [ofOne, flatMap_ite_eq (nodup_eraseDups resourceTypes), List.mem_eraseDups]

namespace ConstraintStore

theorem findAll_of_working
    {store : ConstraintStore}
    (working : store.failure = none)
    (resourceTypes : List String) :
    (store.findAll resourceTypes).1 = .ok (resourceTypes.flatMap store.constraints.forType) := by
  induction resourceTypes generalizing store with
  | nil => rfl
  | cons resourceType rest inductionHypothesis =>
      have others : ({ store with queries := store.queries + 1 }.findAll rest).1 =
          .ok (rest.flatMap store.constraints.forType) := inductionHypothesis working
      simp only [findAll, find, working]
      split <;> simp_all

/-- A store that is in order gives the constraints on the types that it is asked about. -/
theorem fetch_of_working
    {store : ConstraintStore}
    (working : store.failure = none)
    (resourceTypes : List String) :
    (store.fetch resourceTypes).1 = .ok (store.constraints.select resourceTypes) :=
  findAll_of_working working resourceTypes.eraseDups

end ConstraintStore

/-! ## Violations -/

variable {set : ConstraintSet} {catalog : Catalog} {graph : Graph} {region : String}

theorem ConstraintSet.violationsOf_eq_nil_iff (node : Node) :
    set.violationsOf graph region node = [] ↔
      ∀ constraint ∈ set, constraint.resourceType = node.typeName →
        ∀ requirement ∈ constraint.requirement?, requirement.faults graph region node = [] := by
  simp only [violationsOf, forType, List.flatMap_eq_nil_iff, List.mem_filterMap, List.mem_filter,
    beq_iff_eq, List.map_eq_nil_iff, Option.mem_def]
  constructor
  · intro faultless constraint member typed requirement required
    exact faultless requirement ⟨constraint, ⟨member, typed⟩, required⟩
  · rintro faultless requirement ⟨constraint, ⟨member, typed⟩, required⟩
    exact faultless constraint member typed requirement required

/-- The constraints on the types of its nodes are all that a graph can violate. -/
theorem ConstraintSet.violations_select
    {resourceTypes : List String}
    (mentioned : ∀ node ∈ graph.nodes, node.typeName ∈ resourceTypes) :
    (set.select resourceTypes).violations catalog graph region =
      set.violations catalog graph region := by
  refine List.flatMap_congr fun node member => ?_
  have listed := mentioned node (List.mem_of_mem_filter member)
  rw [violationsOf, violationsOf, forType_select, if_pos listed]

/-- There are no violations exactly when every node of a known type meets what the constraints
on its type require. -/
theorem ConstraintSet.violations_eq_nil_iff :
    set.violations catalog graph region = [] ↔
      ∀ node ∈ graph.nodes, catalog.contains node.typeName = true →
        ∀ constraint ∈ set, constraint.resourceType = node.typeName →
          ∀ requirement ∈ constraint.requirement?,
            requirement.faults graph region node = [] := by
  simp only [violations, List.flatMap_eq_nil_iff, List.mem_filter, violationsOf_eq_nil_iff,
    and_imp]

/-- What is reported is a fault of a node of a known type against what a constraint on its type
requires. -/
theorem ConstraintSet.mem_violations_iff
    {violation : Violation} :
    violation ∈ set.violations catalog graph region ↔
      violation.node ∈ graph.nodes ∧ catalog.contains violation.node.typeName = true ∧
        ∃ constraint ∈ set, constraint.resourceType = violation.node.typeName ∧
          ∃ requirement ∈ constraint.requirement?,
            violation.fault ∈ requirement.faults graph region violation.node := by
  obtain ⟨node, fault⟩ := violation
  simp only [violations, violationsOf, forType, List.mem_flatMap, List.mem_filterMap,
    List.mem_filter, List.mem_map, beq_iff_eq, Violation.mk.injEq]
  constructor
  · rintro ⟨_, ⟨isNode, known⟩, requirement, ⟨constraint, ⟨member, typed⟩, required⟩, _, isFault,
      rfl, rfl⟩
    exact ⟨isNode, known, constraint, member, typed, requirement, required, isFault⟩
  · rintro ⟨isNode, known, constraint, member, typed, requirement, required, isFault⟩
    exact ⟨node, ⟨isNode, known⟩, requirement, ⟨constraint, ⟨member, typed⟩, required⟩, fault,
      isFault, rfl, rfl⟩

/-- A node is reported when it is of a known type and breaks what a constraint on its type
requires. -/
theorem ConstraintSet.exists_violation_iff
    {node : Node} :
    (∃ violation ∈ set.violations catalog graph region, violation.node = node) ↔
      node ∈ graph.nodes ∧ catalog.contains node.typeName = true ∧
        ∃ constraint ∈ set, constraint.resourceType = node.typeName ∧
          ∃ requirement ∈ constraint.requirement?,
            requirement.faults graph region node ≠ [] := by
  constructor
  · rintro ⟨violation, found, rfl⟩
    obtain ⟨isNode, known, constraint, member, typed, requirement, required, isFault⟩ :=
      mem_violations_iff.1 found
    exact ⟨isNode, known, constraint, member, typed, requirement, required,
      List.ne_nil_of_mem isFault⟩
  · rintro ⟨isNode, known, constraint, member, typed, requirement, required, filled⟩
    obtain ⟨fault, isFault⟩ := List.exists_mem_of_ne_nil _ filled
    exact ⟨⟨node, fault⟩, mem_violations_iff.2 ⟨isNode, known, constraint, member, typed,
      requirement, required, isFault⟩, rfl⟩

/-- By a constraint alone, those nodes of its type are reported that break what it requires. -/
theorem ConstraintSet.exists_violation_singleton_iff
    {constraint : Constraint}
    (known : catalog.contains constraint.resourceType = true)
    {node : Node}
    (isNode : node ∈ graph.nodes)
    (typed : node.typeName = constraint.resourceType) :
    (∃ violation ∈ ConstraintSet.violations [constraint] catalog graph region,
        violation.node = node) ↔
      ∃ requirement ∈ constraint.requirement?, requirement.faults graph region node ≠ [] := by
  simp only [exists_violation_iff, List.mem_singleton, exists_eq_left, isNode, typed, known,
    true_and]

/-- A node that has to be contained in one of some types is. -/
theorem Requirement.faults_contained_eq_nil_iff
    {allowed : List String}
    {node : Node} :
    (contained (some allowed)).faults graph region node = [] ↔
      ∃ parent, graph.parent? node.id = some parent ∧ parent.typeName ∈ allowed := by
  cases found : graph.parent? node.id <;> simp [faults, found]

end CloudPlan
