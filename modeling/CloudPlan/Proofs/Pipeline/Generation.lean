import CloudPlan.Proofs.Architecture.Growth
import CloudPlan.Proofs.Catalog.Aws
import CloudPlan.Proofs.Pipeline.Checking
import CloudPlan.Proofs.Terraform.Readiness

/-!
# From checked diagrams to code

The architecture of a diagram that passes the checks is compliant: the constraints that
go with the AWS catalogue, its hidden rules and the mappers agree but for one point.  A
function whose metadata say something about a role without naming one passes the checks,
is given no role by the rules, and is refused by its mapper.
-/

namespace CloudPlan

open Terraform Terraform.Aws

namespace Pipeline

variable {pipeline : Pipeline} {raw : List UInt8} {provider : Provider} {region : String}
  {architecture : Architecture}

/-! ## Diagrams that pass the checks -/

/-- The pipeline with the constraints that go with the AWS catalogue. -/
def baseline : Pipeline where
  constraints := { constraints := .awsBaseline }

theorem constraintsFor_baseline (graph : Graph) :
    baseline.constraintsFor graph = .ok (ConstraintSet.awsBaseline.select graph.typeNames) :=
  constraintsFor_of_working rfl graph

/-- What a graph without violations has to do with the architecture made of it. -/
structure Passes (graph : Graph) (region : String) (architecture : Architecture) : Prop where
  /-- The graph is a forest. -/
  forest : graph.IsForest
  /-- Nothing is wrong with it. -/
  faultless : (ConstraintSet.awsBaseline.select (graph.nodes.map (·.typeName))).violations
    .builtIn graph region = []
  /-- The architecture is made of it. -/
  made : Architecture.ofGraph .builtIn graph .aws region = .ok architecture

theorem exists_passes
    (mapped : baseline.process raw .aws region = .ok (.mapped architecture)) :
    ∃ graph, Passes graph region architecture := by
  obtain ⟨graph, read, set, constraints, faultless, made⟩ := process_eq_mapped_iff.1 mapped
  obtain rfl := Except.ok.inj ((constraintsFor_baseline graph).symm.trans constraints)
  exact ⟨graph, Graph.isForest_of_ofBytes read, faultless, made⟩

namespace Passes

variable {graph : Graph} {resource : Resource}

/-- The types of the nodes are those of the catalogue. -/
theorem contains_typeName
    (passes : Passes graph region architecture)
    {node : Node}
    (member : node ∈ graph.nodes) :
    Catalog.builtIn.contains node.typeName := by
  obtain ⟨type, resolves⟩ := Architecture.resolves_of_ofGraph passes.made member
  exact Catalog.contains_of_resolveFor resolves

/-- A resource of a type that no rule adds comes from a node. -/
theorem exists_node
    (passes : Passes graph region architecture)
    (member : resource ∈ architecture.resources)
    (drawn : resource.typeName ∉ ["ElasticIP", "EBSVolume", "IAMRole"]) :
    ∃ node ∈ graph.nodes, (Architecture.ofNode graph node).GrowsTo resource := by
  rcases Architecture.origin_of_ofGraph passes.forest passes.made member with
    fromNode | ⟨_, _, _, demands, added⟩
  · exact fromNode
  · exact absurd (added ▸ Catalog.Aws.childType_mem_of_mem_rules _ demands.filed) drawn

theorem known
    (passes : Passes graph region architecture)
    (member : resource ∈ architecture.resources) :
    (mappers.lookup resource.typeName).isSome := by
  have ofNames : ∀ name ∈ Catalog.builtIn.registered.keys, (mappers.lookup name).isSome := by
    decide
  have ofRules : ∀ entry ∈ Catalog.builtIn.rules, (mappers.lookup entry.2.childType).isSome := by
    decide
  rcases Architecture.origin_of_ofGraph passes.forest passes.made member with
    ⟨node, nodeMember, growth⟩ | ⟨_, _, _, demands, added⟩
  · rw [growth.typeName]
    exact ofNames _ (Catalog.contains_iff_mem_keys.1 (passes.contains_typeName nodeMember))
  · rw [added]
    exact ofRules _ demands.filed

/-- The nodes meet what the constraints on their types require. -/
theorem faults_eq_nil
    (passes : Passes graph region architecture)
    {node : Node}
    (member : node ∈ graph.nodes)
    {constraint : Constraint}
    (isConstraint : constraint ∈ ConstraintSet.awsBaseline)
    (typed : constraint.resourceType = node.typeName)
    {requirement : Requirement}
    (required : constraint.requirement? = some requirement) :
    requirement.faults graph region node = [] := by
  have selected : constraint ∈
      ConstraintSet.awsBaseline.select (graph.nodes.map (·.typeName)) := by
    rw [ConstraintSet.mem_select_iff, typed]
    exact ⟨isConstraint, List.mem_map_of_mem member⟩
  exact ConstraintSet.violations_eq_nil_iff.1 passes.faultless node member
    (passes.contains_typeName member) constraint selected typed
    requirement required

/-- The constraints see to it that subnets and route tables lie in private networks. -/
theorem placed
    (passes : Passes graph region architecture)
    (member : resource ∈ architecture.resources)
    (needsNetwork : resource.typeName ∈ ["Subnet", "RouteTable"]) :
    ∃ network ∈ architecture.resources,
      network.typeName = "VPC" ∧ resource.parent? = some network.id := by
  have drawn : ∀ typeName ∈ ["Subnet", "RouteTable"],
      typeName ∉ ["ElasticIP", "EBSVolume", "IAMRole"] := by decide
  have constrained : ∀ typeName ∈ ["Subnet", "RouteTable"],
      ∃ constraint ∈ ConstraintSet.awsBaseline, constraint.resourceType = typeName ∧
        constraint.requirement? = some (.contained (some ["VPC"])) := by decide +kernel
  obtain ⟨node, nodeMember, growth⟩ := passes.exists_node member (drawn _ needsNetwork)
  obtain ⟨constraint, isConstraint, typed, required⟩ := constrained _ needsNetwork
  have contained := passes.faults_eq_nil nodeMember isConstraint (typed.trans growth.typeName)
    required
  obtain ⟨parent, isParent, allowed⟩ := Requirement.faults_contained_eq_nil_iff.1 contained
  obtain ⟨network, networkMember, sameType, isContainer⟩ :=
    Architecture.exists_container_of_ofGraph passes.forest passes.made isParent growth
  exact ⟨network, networkMember, sameType.trans (List.mem_singleton.1 allowed), isContainer⟩

/-- The rule for functions sees to it that those that say nothing about a role depend on one. -/
theorem served
    (passes : Passes graph region architecture)
    (member : resource ∈ architecture.resources)
    (isFunction : resource.typeName = "Lambda")
    (unnamed : ∀ value ∈ resource.config.lookup "role_arn", value = .null) :
    DependsOnRole architecture resource := by
  obtain ⟨node, nodeMember, growth⟩ :=
    passes.exists_node member (by rw [isFunction]; decide)
  have sameType : node.typeName = "Lambda" := growth.typeName.symm.trans isFunction
  have provides := Architecture.provides_of_ofGraph passes.made nodeMember
    (sameType ▸ Catalog.Aws.lambdaRule_mem_rules) Catalog.Aws.covers_lambdaRule
  obtain ⟨function, functionMember, sameId, wanted, wants, linked⟩ := provides
  -- Ids are given once, so the rule was applied to this very resource.
  have distinct := (Architecture.wellLinked_of_ofGraph passes.forest passes.made).distinct
  obtain rfl : function = resource :=
    List.inj_on_of_nodup_map distinct functionMember member (sameId.trans growth.id.symm)
  have one : Architecture.wantedCount .builtIn Catalog.Aws.lambdaRule function.config =
      .ok (some 1) :=
    Architecture.wantedCount_eq_some_iff.2 ⟨(Catalog.Aws.appliesTo_lambdaRule_iff _).2 unnamed,
      Catalog.Aws.count_lambdaRule _, _, rfl⟩
  obtain rfl := Except.ok.inj (one.symm.trans wants)
  obtain ⟨role, roleMember, isRole, isLinked⟩ :=
    Architecture.exists_linked_of_linkedCount_pos linked
  exact ⟨role, roleMember, isRole, isLinked⟩

theorem compliant (passes : Passes graph region architecture) : Compliant architecture where
  known _ := passes.known
  placed _ := passes.placed
  served _ := passes.served

end Passes

/-! ## Generation -/

/-- Mapping errors are no cycles. -/
theorem problem_cyclic_ne_ofGeneration
    (cycle : List String)
    (error : Code.GenerationError)
    (resource : Option String) :
    (PipelineError.architecture (.cyclic cycle)).problem ≠ .ofGeneration error resource := by
  intro same
  have codes : "CyclicDependency" = error.code := congrArg Code.Problem.code same
  cases error <;> simp [Code.GenerationError.code] at codes

/-- A compliant architecture that can be sorted is generated exactly when no function of it lacks
a role; no cycle is reported for it. -/
theorem generate_of_sorted
    (wellLinked : architecture.WellLinked)
    (compliant : Compliant architecture)
    {sorted : Architecture}
    (isSorted : architecture.sort = .ok sorted) :
    ((∃ files, (baseline.generate engine architecture).outcome = .ok files) ↔
      ∀ resource ∈ architecture.resources, ¬Roleless architecture resource) ∧
    ∀ cycle, (baseline.generate engine architecture).outcome ≠
      .error [(PipelineError.architecture (.cyclic cycle)).problem] := by
  have generated : baseline.generate engine architecture =
      Code.Registry.builtIn.generate engine sorted := by
    rw [generate, isSorted]
    rfl
  rw [generated]
  constructor
  · have resources := wellLinked.closed.perm_of_sort wellLinked.distinct isSorted
    have mappable := (compliant.of_perm resources).mappable_iff (wellLinked.sort isSorted).distinct
    simp only [resources.mem_iff, roleless_iff_of_perm resources] at mappable
    simp [generate_eq_ok_iff, mappable]
  · intro cycle fails
    obtain ⟨error, resource, same⟩ :=
      Code.Registry.problems_of_generate fails _ List.mem_cons_self
    exact problem_cyclic_ne_ofGeneration cycle error resource same

/-- What passes the checks is generated, or else a cycle is all that is reported, exactly when no
function lacks a role or there is a cycle. -/
theorem generates_mapped_iff
    (mapped : baseline.process raw .aws region = .ok (.mapped architecture)) :
    ((∃ files, (baseline.generate engine architecture).outcome = .ok files) ∨
      ∃ cycle, (baseline.generate engine architecture).outcome =
        .error [(PipelineError.architecture (.cyclic cycle)).problem]) ↔
    ((∃ sorted, architecture.sort = .ok sorted) →
      ∀ resource ∈ architecture.resources, ¬Roleless architecture resource) := by
  obtain ⟨graph, passes⟩ := exists_passes mapped
  have wellLinked := Architecture.wellLinked_of_ofGraph passes.forest passes.made
  by_cases sortable : ∃ sorted, architecture.sort = .ok sorted
  · obtain ⟨sorted, isSorted⟩ := sortable
    obtain ⟨generates, noCycle⟩ := generate_of_sorted wellLinked passes.compliant isSorted
    simp [generates, noCycle, isSorted]
  · obtain ⟨cycle, reported⟩ := wellLinked.closed.sort_eq_cyclic sortable
    refine iff_of_true (Or.inr ⟨cycle, ?_⟩) fun sorts => absurd sorts sortable
    rw [generate, reported]
    rfl

/-- A diagram of one function, with what its metadata say about its role. -/
def functionDiagram (role : String) : List UInt8 :=
  ("\x7b\"nodes\": [\x7b\"id\": \"fn\", \"typeName\": \"Lambda\", " ++
    "\"metadata\": \x7b\"role_arn\": " ++ role ++ "\x7d\x7d], \"edges\": []\x7d").toUTF8.data.toList

/-- The graph of one function. -/
def functionGraph (role : Json.Value) : Graph where
  nodes := [{ id := "fn", typeName := "Lambda", metadata := [("role_arn", role)] }]
  containment := []
  dependency := []

/-- No role is added for a function whose metadata say something else than null about it. -/
theorem process_functionDiagram
    {text : String}
    {role : Json.Value}
    (read : Graph.ofBytes (functionDiagram text) = .ok (functionGraph role))
    (given : role ≠ .null) :
    baseline.process (functionDiagram text) .aws region =
      .ok (.mapped (Architecture.drawn (functionGraph role) .aws region)) := by
  have refused : Catalog.Aws.lambdaRule.appliesTo [("role_arn", role)] = .ok false := by
    rw [Catalog.Aws.appliesTo_lambdaRule]
    simpa using mt (Catalog.Aws.looselyEqual_null_iff role).1 given
  have nothing : Architecture.missingIds .builtIn
      (Architecture.drawn (functionGraph role) .aws region) Catalog.Aws.lambdaRule "fn" =
        .ok [] := by
    rw [Architecture.missingIds]
    change (Architecture.wantedCount _ _ [("role_arn", role)]).map _ = _
    rw [Architecture.wantedCount, refused]
    simp [Except.map, Architecture.freshIds]
  have expanded : Architecture.expand .builtIn
      (Architecture.drawn (functionGraph role) .aws region) =
        { architecture := Architecture.drawn (functionGraph role) .aws region } := by
    have due : Architecture.dueRules .builtIn
        (Architecture.drawn (functionGraph role) .aws region) =
          [("fn", Catalog.Aws.lambdaRule)] := rfl
    rw [Architecture.expand, due, Architecture.applyRules, nothing]
    rfl
  refine process_eq_mapped_iff.2 ⟨_, read, _, constraintsFor_baseline _, rfl, ?_⟩
  exact Architecture.ofGraph_eq_ok_iff.2 ⟨rfl, congrArg _ expanded, congrArg _ expanded⟩

theorem generates_named_role :
    ∃ architecture,
      baseline.process (functionDiagram "\"arn\"") .aws "us-east-1" = .ok (.mapped architecture) ∧
      (∃ sorted, architecture.sort = .ok sorted) ∧
      ((∃ files, (baseline.generate engine architecture).outcome = .ok files) ∨
        ∃ cycle, (baseline.generate engine architecture).outcome =
          .error [(PipelineError.architecture (.cyclic cycle)).problem]) := by
  have read : Graph.ofBytes (functionDiagram "\"arn\"") = .ok (functionGraph (.text "arn")) := rfl
  have mapped : baseline.process (functionDiagram "\"arn\"") .aws "us-east-1" = .ok (.mapped _) :=
    process_functionDiagram read (by simp)
  refine ⟨_, mapped, ⟨_, rfl⟩, (generates_mapped_iff mapped).2 ?_⟩
  rintro - resource member ⟨-, ⟨value, given, -, noText⟩, -⟩
  obtain rfl := List.mem_singleton.1 member
  cases given
  contradiction

/-- A number is no name of a role, and keeps the rule from adding one. -/
theorem refuses_numbered_role :
    ∃ architecture,
      baseline.process (functionDiagram "5") .aws "us-east-1" = .ok (.mapped architecture) ∧
      (baseline.generate engine architecture).outcome =
        .error [{
          code := "MappingFailed"
          message := "Cannot map resource 'fn': a Lambda needs an IAM role or a role_arn"
          resource := some "fn" }] := by
  have read : Graph.ofBytes (functionDiagram "5") =
    .ok (functionGraph (.number (.integer 5))) := rfl
  exact ⟨_, process_functionDiagram read (by simp), rfl⟩

end Pipeline

end CloudPlan
