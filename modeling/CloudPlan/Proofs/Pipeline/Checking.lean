import CloudPlan.Pipeline.Basic
import CloudPlan.Proofs.Architecture.Growth
import CloudPlan.Proofs.Catalog.Resolution
import CloudPlan.Proofs.Constraint.Compliance
import CloudPlan.Proofs.Constraint.Findings

/-!
# Diagrams that are checked

A diagram is checked against the constraints on the types of its nodes only.  What comes
of it is what would come of a check against all constraints of the store: there are
violations exactly when there would be, the same in the same order.
-/

namespace CloudPlan

/-- The types of the nodes, in document order. -/
def Graph.typeNames (graph : Graph) : List String :=
  graph.nodes.map (·.typeName)

theorem Graph.isForest_of_ofBytes
    {raw : List UInt8}
    {graph : Graph}
    (read : Graph.ofBytes raw = .ok graph) :
    graph.IsForest := by
  rw [Graph.ofBytes] at read
  split at read
  next diagram _ => exact Diagram.isForest_of_toGraph read
  next => contradiction

namespace Pipeline

variable {pipeline : Pipeline} {raw : List UInt8} {provider : Provider} {region : String}
  {architecture : Architecture} {graph : Graph}

/-! ## Stages -/

theorem constraintsFor_of_working
    (working : pipeline.constraints.failure = none)
    (graph : Graph) :
    pipeline.constraintsFor graph =
      .ok (pipeline.constraints.constraints.select graph.typeNames) := by
  rw [constraintsFor, ConstraintStore.fetch_of_working working]
  rfl

/-- There is an architecture when the diagram is read, the constraints are there, nothing violates
them, and the hidden rules are applied. -/
theorem process_eq_mapped_iff :
    pipeline.process raw provider region = .ok (.mapped architecture) ↔
      ∃ graph, Graph.ofBytes raw = .ok graph ∧
        ∃ set, pipeline.constraintsFor graph = .ok set ∧
          set.violations pipeline.catalog graph region = [] ∧
          Architecture.ofGraph pipeline.catalog graph provider region = .ok architecture := by
  rw [process, bind_eq_ok_iff]
  refine exists_congr fun graph => and_congr mapError_eq_ok_iff ?_
  rw [processGraph, bind_eq_ok_iff]
  refine exists_congr fun set => and_congr_right fun _ => ?_
  cases violations : set.violations pipeline.catalog graph region with
  | nil =>
      rw [bind_eq_ok_iff]
      simp [mapError_eq_ok_iff, pure, Except.pure]
  | cons first rest => simp [pure, Except.pure]

/-- There are violations when the diagram is read, the constraints are there, and something
violates them. -/
theorem process_eq_invalid_iff
    {found : List Violation} :
    pipeline.process raw provider region = .ok (.invalid found) ↔
      ∃ graph, Graph.ofBytes raw = .ok graph ∧
        ∃ set, pipeline.constraintsFor graph = .ok set ∧
          set.violations pipeline.catalog graph region = found ∧ found ≠ [] := by
  rw [process, bind_eq_ok_iff]
  refine exists_congr fun graph => and_congr mapError_eq_ok_iff ?_
  rw [processGraph, bind_eq_ok_iff]
  refine exists_congr fun set => and_congr_right fun _ => ?_
  cases violations : set.violations pipeline.catalog graph region with
  | nil =>
      rw [bind_eq_ok_iff]
      simp [pure, Except.pure]
  | cons first rest =>
      simp only [pure, Except.pure, Except.ok.injEq, Outcome.invalid.injEq]
      constructor
      · rintro rfl
        exact ⟨rfl, List.cons_ne_nil first rest⟩
      · exact And.left

/-! ## Checks against all constraints -/

/-- What violates the constraints of the store, whatever types they are on. -/
def violations (pipeline : Pipeline) (graph : Graph) (region : String) : List Violation :=
  pipeline.constraints.constraints.violations pipeline.catalog graph region

theorem violations_select_typeNames
    (set : ConstraintSet)
    (catalog : Catalog)
    (graph : Graph)
    (region : String) :
    (set.select graph.typeNames).violations catalog graph region =
      set.violations catalog graph region :=
  set.violations_select fun _ member => List.mem_map_of_mem member

/-- Against what a store or a set gives for the types of a graph, the graph has the violations
that it has against all constraints.  So the outcome is invalid with these violations exactly
when there are any, and where there is an architecture every node is of a type of the provider
and meets all constraints on its type. -/
theorem checked_against_all_constraints
    (working : pipeline.constraints.failure = none)
    (read : Graph.ofBytes raw = .ok graph)
    (provider : Provider)
    (region : String) :
    (∃ fetched, (pipeline.constraints.fetch graph.typeNames).1 = .ok fetched ∧
      fetched.violations pipeline.catalog graph region = pipeline.violations graph region) ∧
    (∀ set : ConstraintSet, (set.select graph.typeNames).violations pipeline.catalog graph region =
      set.violations pipeline.catalog graph region) ∧
    (∀ found, pipeline.process raw provider region = .ok (.invalid found) ↔
      found = pipeline.violations graph region ∧ found ≠ []) ∧
    ∀ architecture, pipeline.process raw provider region = .ok (.mapped architecture) →
      pipeline.violations graph region = [] ∧
      ∀ node ∈ graph.nodes,
        (∃ type, pipeline.catalog.resolveFor node.typeName provider = .ok type) ∧
        ∀ constraint ∈ pipeline.constraints.constraints,
          constraint.resourceType = node.typeName →
          ∀ requirement ∈ constraint.requirement?, requirement.faults graph region node = [] := by
  have fetches := ConstraintStore.fetch_of_working working graph.typeNames
  have constraints := constraintsFor_of_working working graph
  have same (set : ConstraintSet) :=
    violations_select_typeNames set pipeline.catalog graph region
  refine ⟨⟨_, fetches, same _⟩, same, fun found => ?_, fun architecture mapped => ?_⟩
  · rw [process_eq_invalid_iff]
    constructor
    · rintro ⟨other, readToo, set, isSet, rfl, nonempty⟩
      obtain rfl := Except.ok.inj (read.symm.trans readToo)
      obtain rfl := Except.ok.inj (constraints.symm.trans isSet)
      exact ⟨same _, nonempty⟩
    · rintro ⟨rfl, nonempty⟩
      exact ⟨graph, read, _, constraints, same _, nonempty⟩
  · obtain ⟨other, readToo, set, isSet, faultless, made⟩ := process_eq_mapped_iff.1 mapped
    obtain rfl := Except.ok.inj (read.symm.trans readToo)
    obtain rfl := Except.ok.inj (constraints.symm.trans isSet)
    rw [same] at faultless
    refine ⟨faultless, fun node member => ?_⟩
    obtain ⟨type, resolves⟩ := Architecture.resolves_of_ofGraph made member
    have known := Catalog.contains_of_resolveFor resolves
    exact ⟨⟨type, resolves⟩, ConstraintSet.violations_eq_nil_iff.1 faultless node member known⟩

/-- The pipeline with the rules for networks. -/
def strict : Pipeline where
  catalog := plainNetwork
  constraints := { constraints := networkRules }

/-- Two servers without a network. -/
def serversAlone : List UInt8 :=
  ("\x7b\"nodes\": [\x7b\"id\": \"web\", \"typeName\": \"Server\"\x7d, " ++
    "\x7b\"id\": \"db\", \"typeName\": \"Server\"\x7d], \"edges\": []\x7d").toUTF8.data.toList

/-- The rules are fetched once for both servers, and each of them is found outside. -/
theorem checked_servers_alone :
    ∃ graph found, Graph.ofBytes serversAlone = .ok graph ∧
      strict.process serversAlone .aws "" = .ok (.invalid found) ∧
      found = strict.violations graph "" ∧ found.map (·.node.id) = ["web", "db"] := by
  have read : ∃ graph, Graph.ofBytes serversAlone = .ok graph ∧
      (strict.violations graph "").map (·.node.id) = ["web", "db"] := ⟨_, rfl, rfl⟩
  obtain ⟨graph, read, areFound⟩ := read
  have working : strict.constraints.failure = none := rfl
  obtain ⟨_, _, invalid, _⟩ := checked_against_all_constraints working read .aws ""
  refine ⟨graph, _, read, (invalid _).2 ⟨rfl, fun nothing => ?_⟩, rfl, areFound⟩
  rw [nothing] at areFound
  contradiction

end Pipeline

end CloudPlan
