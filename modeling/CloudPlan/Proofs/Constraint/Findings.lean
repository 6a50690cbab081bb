import CloudPlan.Constraint.Violation
import CloudPlan.Proofs.Constraint.Values
import CloudPlan.Proofs.Diagram.Holding
import CloudPlan.Proofs.Relation.Emission

/-!
# What violations there are

The faults of a node against the value of a constraint, described on the edges of the
graph and the text of the value.  The violations of an accepted graph are the findings
of all checks, in order: every node of a known type in document order, every constraint
on its type in the order of the set, and every dependency where a constraint is on
dependencies.
-/

namespace CloudPlan

/-! ## Findings -/

/-- A node breaks a requirement, for one of its dependencies if the requirement is on them. -/
inductive Breaks (graph : Graph) (region : String) (node : Node) :
    Requirement → Option Edge → Fault → Prop
  /-- Nothing contains the node. -/
  | notContained
      {allowed : Option (List String)}
      (nowhere : ∀ container, ¬ graph.Holds container node.id) :
      Breaks graph region node (.contained allowed) none (.notContained allowed)
  /-- The container is of none of the types that are demanded. -/
  | containedElsewhere
      {names : List String}
      {parent : Node}
      (isNode : parent ∈ graph.nodes)
      (holds : graph.Holds parent.id node.id)
      (unlisted : parent.typeName ∉ names) :
      Breaks graph region node (.contained (some names)) none (.containedElsewhere names parent)
  /-- There is a container, of none of the types that are allowed. -/
  | containedAmiss
      {names : List String}
      {parent : Node}
      (isNode : parent ∈ graph.nodes)
      (holds : graph.Holds parent.id node.id)
      (unlisted : parent.typeName ∉ names) :
      Breaks graph region node (.containedOnlyIn names) none (.containedAmiss names parent)
  /-- The region is blank. -/
  | noRegion
      (isBlank : ∀ c ∈ region.toList, Text.isBlank c = true) :
      Breaks graph region node .region none .noRegion
  /-- There are more contents than the bound. -/
  | tooMany
      {bound : ChildBound}
      (above : bound.count < graph.countContents node.id bound.childType) :
      Breaks graph region node (.atMost bound) none
        (.tooMany bound (graph.countContents node.id bound.childType))
  /-- There are fewer contents than the bound. -/
  | tooFew
      {bound : ChildBound}
      (below : graph.countContents node.id bound.childType < bound.count) :
      Breaks graph region node (.atLeast bound) none
        (.tooFew bound (graph.countContents node.id bound.childType))
  /-- Neither the type of what is depended on nor the flavour of the dependency is listed. -/
  | unlistedDependency
      {names : List String}
      {edge : Edge}
      {target : Node}
      (isNode : target ∈ graph.nodes)
      (entered : target.id = edge.target)
      (neither : target.typeName ∉ names ∧ edge.flavour.name ∉ names) :
      Breaks graph region node (.dependsOnlyOn names) (some edge)
        (.unlistedDependency names target edge.flavour)
  /-- The type of what is depended on is listed, or the flavour of the dependency. -/
  | listedDependency
      {names : List String}
      {edge : Edge}
      {target : Node}
      (isNode : target ∈ graph.nodes)
      (entered : target.id = edge.target)
      (either : target.typeName ∈ names ∨ edge.flavour.name ∈ names) :
      Breaks graph region node (.neverDependsOn names) (some edge)
        (.listedDependency names target edge.flavour)

/-- What is checked at one time: a node against a constraint of a known kind, and for one of
its dependencies if the constraint is on dependencies. -/
structure Check where
  /-- The node. -/
  node : Node
  /-- The kind of the constraint. -/
  kind : ConstraintKind
  /-- The value of the constraint, as written. -/
  value : String
  /-- The dependency. -/
  dependency : Option Edge

/-- A check finds a violation: the value requires something, whatever blanks stand at its ends,
and the node breaks it. -/
def Check.Finds (graph : Graph) (region : String) (check : Check) (violation : Violation) :
    Prop :=
  violation.node = check.node ∧
    ∃ requirement, Requires (Text.trim check.value) check.kind requirement ∧
      Breaks graph region check.node requirement check.dependency violation.fault

/-- The dependencies for which a node is checked one by one, or else the node as such. -/
def ConstraintKind.subjects (graph : Graph) (node : Node) : ConstraintKind → List (Option Edge)
  | allowedDependencies => (graph.dependency.filter (·.source == node.id)).map some
  | forbiddenDependencies => (graph.dependency.filter (·.source == node.id)).map some
  | _ => [none]

/-- The checks of a node against a constraint; there are none if nobody knows its kind. -/
def Constraint.checks (graph : Graph) (node : Node) (constraint : Constraint) : List Check :=
  match constraint.kind? with
  | some kind => (kind.subjects graph node).map (⟨node, kind, constraint.value, ·⟩)
  | none => []

/-- The checks of a graph: the nodes of known types in document order, and for each of them
the constraints on its type in the order of the set. -/
def ConstraintSet.checks (set : ConstraintSet) (catalog : Catalog) (graph : Graph) :
    List Check :=
  (graph.nodes.filter (catalog.contains ·.typeName)).flatMap fun node =>
    (set.filter (·.resourceType == node.typeName)).flatMap (·.checks graph node)

/-! ## Faults are what is broken -/

namespace Requirement

theorem isListed_iff
    {names : List String}
    {target : Node}
    {flavour : DependencyType} :
    isListed names target flavour = true ↔ target.typeName ∈ names ∨ flavour.name ∈ names := by
  simp only [isListed, List.any_eq_true, Bool.or_eq_true, beq_iff_eq]
  constructor
  · rintro ⟨entry, member, rfl | rfl⟩
    · exact Or.inl member
    · exact Or.inr member
  · rintro (member | member)
    · exact ⟨_, member, Or.inl rfl⟩
    · exact ⟨_, member, Or.inr rfl⟩

variable {diagram : Diagram} {graph : Graph} {region : String} {node : Node}

section accepted

variable (accepted : diagram.toGraph = .ok graph)

include accepted

theorem emits_contained
    (allowed : Option (List String)) :
    Emits (Breaks graph region node (.contained allowed)) [none]
      ((contained allowed).faults graph region node) := by
  simp only [faults]
  split
  next noParent =>
    exact .reported (.notContained ((Graph.parent?_eq_none_iff accepted).1 noParent)) .nil
  next parent names isParent =>
    obtain ⟨isNode, holds⟩ := (Graph.parent?_eq_some_iff accepted).1 isParent
    split
    next listed =>
      refine .silent (fun fault breaks => ?_) .nil
      cases breaks with
      | notContained nowhere => exact nowhere _ holds
      | containedElsewhere otherIsNode otherHolds unlisted =>
          obtain rfl := Graph.parent_unique accepted isNode holds otherIsNode otherHolds
          exact unlisted listed
    next unlisted => exact .reported (.containedElsewhere isNode holds unlisted) .nil
  next parent isParent =>
    obtain ⟨_, holds⟩ := (Graph.parent?_eq_some_iff accepted).1 isParent
    refine .silent (fun fault breaks => ?_) .nil
    cases breaks with
    | notContained nowhere => exact nowhere _ holds

theorem emits_containedOnlyIn
    (names : List String) :
    Emits (Breaks graph region node (.containedOnlyIn names)) [none]
      ((containedOnlyIn names).faults graph region node) := by
  simp only [faults]
  split
  next noParent =>
    refine .silent (fun fault breaks => ?_) .nil
    cases breaks with
    | containedAmiss _ holds _ =>
        exact (Graph.parent?_eq_none_iff accepted).1 noParent _ holds
  next parent isParent =>
    obtain ⟨isNode, holds⟩ := (Graph.parent?_eq_some_iff accepted).1 isParent
    split
    next listed =>
      refine .silent (fun fault breaks => ?_) .nil
      cases breaks with
      | containedAmiss otherIsNode otherHolds unlisted =>
          obtain rfl := Graph.parent_unique accepted isNode holds otherIsNode otherHolds
          exact unlisted listed
    next unlisted => exact .reported (.containedAmiss isNode holds unlisted) .nil

omit accepted in
theorem emits_region :
    Emits (Breaks graph region node .region) [none]
      (Requirement.region.faults graph region node) := by
  simp only [faults, Text.isBlankText, List.all_eq_true]
  split
  next isBlank => exact .reported (.noRegion isBlank) .nil
  next filled =>
    refine .silent (fun fault breaks => ?_) .nil
    cases breaks with
    | noRegion isBlank => exact filled isBlank

theorem emits_atMost
    (bound : ChildBound) :
    Emits (Breaks graph region node (.atMost bound)) [none]
      ((atMost bound).faults graph region node) := by
  simp only [faults, childCount, Graph.countP_children_eq_countContents accepted]
  split
  next above => exact .reported (.tooMany above) .nil
  next notAbove =>
    refine .silent (fun fault breaks => ?_) .nil
    cases breaks with
    | tooMany above => exact notAbove above

theorem emits_atLeast
    (bound : ChildBound) :
    Emits (Breaks graph region node (.atLeast bound)) [none]
      ((atLeast bound).faults graph region node) := by
  simp only [faults, childCount, Graph.countP_children_eq_countContents accepted]
  split
  next below => exact .reported (.tooFew below) .nil
  next notBelow =>
    refine .silent (fun fault breaks => ?_) .nil
    cases breaks with
    | tooFew below => exact notBelow below

omit accepted in
/-- Faults that are picked from the dependencies of a node, in order of the edges. -/
theorem emits_dependencies
    {reports : Option Edge → Fault → Prop}
    {picks : Node × DependencyType → Bool}
    {fault : Node × DependencyType → Fault}
    (reported : ∀ edge found, reports (some edge) found ↔
      ∃ target, graph.node? edge.target = some target ∧
        picks (target, edge.flavour) = true ∧ fault (target, edge.flavour) = found) :
    Emits reports ((graph.dependencies node.id).map some)
      (((dependencyTargets graph node).filter picks).map fault) := by
  -- Edge by edge: the target if it is there, with the flavour, if the two are picked.
  let report? (edge : Edge) : Option Fault :=
    (((graph.node? edge.target).map (·, edge.flavour)).filter picks).map fault
  have picked : ((dependencyTargets graph node).filter picks).map fault =
      (graph.dependencies node.id).filterMap report? := by
    rw [dependencyTargets, List.filter_filterMap, List.map_filterMap]
  have computed (edge : Edge) (found : Fault) :
      reports (some edge) found ↔ report? edge = some found := by
    simp only [reported, report?, Option.map_eq_some_iff, Option.filter_eq_some_iff]
    constructor
    · rintro ⟨target, isTarget, isPicked, rfl⟩
      exact ⟨_, ⟨⟨target, isTarget, rfl⟩, isPicked⟩, rfl⟩
    · rintro ⟨_, ⟨⟨target, isTarget, rfl⟩, isPicked⟩, rfl⟩
      exact ⟨target, isTarget, isPicked, rfl⟩
  have emits : Emits reports ((graph.dependencies node.id).map some)
      (((graph.dependencies node.id).map some).filterMap fun dependency =>
        dependency.bind report?) := by
    apply Emits.filterMap
    intro dependency member found
    obtain ⟨edge, _, rfl⟩ := List.mem_map.1 member
    exact computed edge found
  rw [List.filterMap_map] at emits
  rw [picked]
  exact emits

theorem emits_dependsOnlyOn
    (names : List String) :
    Emits (Breaks graph region node (.dependsOnlyOn names))
      ((graph.dependencies node.id).map some)
      ((dependsOnlyOn names).faults graph region node) := by
  rw [faults]
  apply emits_dependencies
  intro edge fault
  constructor
  · intro breaks
    cases breaks with
    | unlistedDependency isNode entered neither =>
        exact ⟨_, (Graph.node?_eq_some_iff accepted).2 ⟨isNode, entered⟩,
          by simpa [← Bool.not_eq_true, isListed_iff] using neither, rfl⟩
  · rintro ⟨target, isTarget, notListed, rfl⟩
    obtain ⟨isNode, entered⟩ := (Graph.node?_eq_some_iff accepted).1 isTarget
    exact .unlistedDependency isNode entered
      (by simpa [← Bool.not_eq_true, isListed_iff] using notListed)

theorem emits_neverDependsOn
    (names : List String) :
    Emits (Breaks graph region node (.neverDependsOn names))
      ((graph.dependencies node.id).map some)
      ((neverDependsOn names).faults graph region node) := by
  rw [faults]
  apply emits_dependencies
  intro edge fault
  constructor
  · intro breaks
    cases breaks with
    | listedDependency isNode entered either =>
        exact ⟨_, (Graph.node?_eq_some_iff accepted).2 ⟨isNode, entered⟩,
          isListed_iff.2 either, rfl⟩
  · rintro ⟨target, isTarget, listed, rfl⟩
    obtain ⟨isNode, entered⟩ := (Graph.node?_eq_some_iff accepted).1 isTarget
    exact .listedDependency isNode entered (isListed_iff.1 listed)

/-- The faults of a node are what it breaks, in order. -/
theorem emits_faults
    {value : String}
    {kind : ConstraintKind}
    {requirement : Requirement}
    (requires : Requires value kind requirement) :
    Emits (Breaks graph region node requirement) (kind.subjects graph node)
      (requirement.faults graph region node) := by
  cases requires with
  | contained _ => exact emits_contained accepted _
  | containedOnlyIn _ => exact emits_containedOnlyIn accepted _
  | region _ => exact emits_region
  | atMost _ => exact emits_atMost accepted _
  | atLeast _ => exact emits_atLeast accepted _
  | dependsOnlyOn _ => exact emits_dependsOnlyOn accepted _
  | neverDependsOn _ => exact emits_neverDependsOn accepted _

/-- A node breaks a requirement in one way at most. -/
theorem breaks_unique
    {requirement : Requirement}
    {dependency : Option Edge}
    {first second : Fault}
    (breaks : Breaks graph region node requirement dependency first)
    (breaksToo : Breaks graph region node requirement dependency second) :
    first = second := by
  cases breaks with
  | notContained nowhere =>
      cases breaksToo with
      | notContained _ => rfl
      | containedElsewhere _ holds _ => exact absurd holds (nowhere _)
  | containedElsewhere isNode holds _ =>
      cases breaksToo with
      | notContained nowhere => exact absurd holds (nowhere _)
      | containedElsewhere otherIsNode otherHolds _ =>
          rw [Graph.parent_unique accepted isNode holds otherIsNode otherHolds]
  | containedAmiss isNode holds _ =>
      cases breaksToo with
      | containedAmiss otherIsNode otherHolds _ =>
          rw [Graph.parent_unique accepted isNode holds otherIsNode otherHolds]
  | noRegion _ =>
      cases breaksToo with
      | noRegion _ => rfl
  | tooMany _ =>
      cases breaksToo with
      | tooMany _ => rfl
  | tooFew _ =>
      cases breaksToo with
      | tooFew _ => rfl
  | unlistedDependency isNode entered _ =>
      cases breaksToo with
      | unlistedDependency otherIsNode otherEntered _ =>
          rw [Graph.node_unique accepted isNode otherIsNode (entered.trans otherEntered.symm)]
  | listedDependency isNode entered _ =>
      cases breaksToo with
      | listedDependency otherIsNode otherEntered _ =>
          rw [Graph.node_unique accepted isNode otherIsNode (entered.trans otherEntered.symm)]

end accepted

end Requirement

/-! ## Violations are findings -/

/-- What is required is what is read from the value between its blanks. -/
theorem requires_trim_iff
    {value : String}
    {kind : ConstraintKind}
    {requirement : Requirement} :
    Requires (Text.trim value) kind requirement ↔
      Requirement.ofKind? kind (Text.trim value) = some requirement :=
  (Requirement.ofKind?_eq_some_iff (Text.trim_trim value)).symm

section accepted

variable {diagram : Diagram} {graph : Graph} {region : String}
variable (accepted : diagram.toGraph = .ok graph)

include accepted

/-- A check finds one violation at most. -/
theorem Check.finds_unique
    {check : Check}
    {first second : Violation}
    (finds : check.Finds graph region first)
    (findsToo : check.Finds graph region second) :
    first = second := by
  obtain ⟨isNode, requirement, requires, breaks⟩ := finds
  obtain ⟨otherIsNode, otherRequirement, otherRequires, otherBreaks⟩ := findsToo
  rw [requires_trim_iff] at requires otherRequires
  obtain rfl : requirement = otherRequirement :=
    Option.some.inj (requires.symm.trans otherRequires)
  have sameFault := Requirement.breaks_unique accepted breaks otherBreaks
  cases first
  cases second
  simp_all

/-- The violations of a constraint are the findings of its checks. -/
theorem Constraint.emits_checks
    (node : Node)
    (constraint : Constraint) :
    Emits (Check.Finds graph region) (constraint.checks graph node)
      (constraint.requirement?.toList.flatMap fun requirement =>
        (requirement.faults graph region node).map (⟨node, ·⟩)) := by
  cases known : constraint.kind? with
  | none =>
      simp only [checks, requirement?, known]
      exact .nil
  | some kind =>
      have value : constraint.requirement? =
          Requirement.ofKind? kind (Text.trim constraint.value) := by
        rw [requirement?, known, Option.bind_some]
      simp only [checks, known, value]
      cases required : Requirement.ofKind? kind (Text.trim constraint.value) with
      | none =>
          refine .nothing ?_
          rintro check member violation ⟨_, requirement, requires, _⟩
          obtain ⟨dependency, _, rfl⟩ := List.mem_map.1 member
          rw [requires_trim_iff, required] at requires
          contradiction
      | some requirement =>
          have requires := requires_trim_iff.2 required
          rw [Option.toList_some, List.flatMap_singleton]
          refine (Requirement.emits_faults accepted requires).map fun dependency violation => ?_
          constructor
          · rintro ⟨isNode, other, otherRequires, breaks⟩
            rw [requires_trim_iff, required] at otherRequires
            obtain rfl := Option.some.inj otherRequires
            exact ⟨violation.fault, breaks, congrArg (Violation.mk · violation.fault) isNode.symm⟩
          · rintro ⟨fault, breaks, rfl⟩
            exact ⟨rfl, requirement, requires, breaks⟩

/-- The violations of an accepted graph are the findings of its checks, in order, and no other
list is. -/
theorem ConstraintSet.violations_eq_iff_emits
    (set : ConstraintSet)
    (catalog : Catalog)
    (found : List Violation) :
    set.violations catalog graph region = found ↔
      Emits (Check.Finds graph region) (set.checks catalog graph) found := by
  have emits : Emits (Check.Finds graph region) (set.checks catalog graph)
      (set.violations catalog graph region) := by
    refine .flatMap fun node _ => ?_
    rw [violationsOf, List.filterMap_eq_flatMap_toList, List.flatMap_assoc, forType]
    exact .flatMap fun constraint _ => constraint.emits_checks accepted node
  constructor
  · rintro rfl
    exact emits
  · refine emits.unique ?_
    exact fun check first second => Check.finds_unique accepted

end accepted

/-- Types of resources without hidden rules. -/
def plainNetwork : Catalog :=
  Catalog.empty
    |>.register (.regional "Network" .networking "network" .aws) []
    |>.register (.regional "Server" .compute "server" .aws) []

/-- Networks have at least two servers, servers stand in networks and only use each other. -/
def networkRules : ConstraintSet :=
  [.requiresParent "Server" ["Network"],
    .ofKind "Network" .minChildren "Server: 2",
    .ofKind "Server" .allowedDependencies "uses"]

/-- In the network one server is missing, the other one depends on a server in a flavour that is
not listed, and that server stands outside. -/
theorem ConstraintSet.findings_of_network :
    ∃ graph, Diagram.network.toGraph = .ok graph ∧
      Emits (Check.Finds graph "") (networkRules.checks plainNetwork graph) [
        ⟨{ id := "net", typeName := "Network" }, .tooFew ⟨some "Server", 2⟩ 1⟩,
        ⟨{ id := "web", typeName := "Server", parentId := some "net" },
          .unlistedDependency ["uses"] { id := "db", typeName := "Server" } .dependsOn⟩,
        ⟨{ id := "db", typeName := "Server" }, .notContained (some ["Network"])⟩] :=
  ⟨_, rfl, (violations_eq_iff_emits (rfl : Diagram.network.toGraph = .ok _) _ _ _).1 rfl⟩

end CloudPlan
