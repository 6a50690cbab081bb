import CloudPlan.Proofs.Constraint.Compliance
import CloudPlan.Proofs.Constraint.Loading
import CloudPlan.Proofs.Constraint.Values
import CloudPlan.Proofs.Diagram.Holding

/-!
# Allowed containers

A constraint that allows containers of some types has a list of their names as its value.  The
checks read the list from its text, and the names they read are those that were given, in a
document or by the program: what is reported is what is contained in something else.
-/

namespace CloudPlan

open Json

/-! ## Reports -/

namespace Requirement

variable {graph : Graph} {region : String} {node : Node} {names : List String}

/-- What a node does wrong against a list of containers is to be in another one. -/
theorem mem_faults_containedOnlyIn_iff
    {fault : Fault} :
    fault ∈ (containedOnlyIn names).faults graph region node ↔
      ∃ parent, graph.parent? node.id = some parent ∧ parent.typeName ∉ names ∧
        fault = .containedAmiss names parent := by
  cases found : graph.parent? node.id with
  | none => simp [faults, found]
  | some parent => by_cases listed : parent.typeName ∈ names <;> simp [faults, found, listed]

/-- A node does something wrong against a list of containers when it is in another one. -/
theorem faults_containedOnlyIn_ne_nil_iff
    {diagram : Diagram}
    (accepted : diagram.toGraph = .ok graph) :
    (containedOnlyIn names).faults graph region node ≠ [] ↔
      ∃ parent ∈ graph.nodes, graph.Holds parent.id node.id ∧ parent.typeName ∉ names := by
  constructor
  · intro filled
    obtain ⟨fault, isFault⟩ := List.exists_mem_of_ne_nil _ filled
    obtain ⟨parent, isParent, unlisted, _⟩ := mem_faults_containedOnlyIn_iff.1 isFault
    obtain ⟨parentIsNode, holds⟩ := (Graph.parent?_eq_some_iff accepted).1 isParent
    exact ⟨parent, parentIsNode, holds, unlisted⟩
  · rintro ⟨parent, parentIsNode, holds, unlisted⟩
    have isParent := (Graph.parent?_eq_some_iff accepted).2 ⟨parentIsNode, holds⟩
    exact List.ne_nil_of_mem
      (mem_faults_containedOnlyIn_iff.2 ⟨parent, isParent, unlisted, rfl⟩)

/-- A node is in a wrong container for a list of the right ones. -/
theorem containedAmiss_mem_faults_iff
    {requirement : Requirement}
    {parent : Node} :
    .containedAmiss names parent ∈ requirement.faults graph region node ↔
      requirement = .containedOnlyIn names ∧ graph.parent? node.id = some parent ∧
        parent.typeName ∉ names := by
  cases requirement with
  | contained allowed =>
      simp only [faults]
      split
      next => simp
      next => split <;> simp
      next => simp
  | containedOnlyIn listed =>
      rw [mem_faults_containedOnlyIn_iff]
      constructor
      · rintro ⟨_, isParent, unlisted, same⟩
        obtain ⟨rfl, rfl⟩ := Fault.containedAmiss.inj same
        exact ⟨rfl, isParent, unlisted⟩
      · rintro ⟨same, isParent, unlisted⟩
        obtain rfl := containedOnlyIn.inj same
        exact ⟨parent, isParent, unlisted, rfl⟩
  | region =>
      simp only [faults]
      split <;> simp
  | atMost bound =>
      simp only [faults]
      split <;> simp
  | atLeast bound =>
      simp only [faults]
      split <;> simp
  | dependsOnlyOn listed => simp [faults]
  | neverDependsOn listed => simp [faults]

end Requirement

namespace Constraint

/-- A constraint confines the resources of a type to containers of some types: those are reported
that something else contains. -/
structure Confines (constraint : Constraint) (resourceType : String) (names : List String) :
    Prop where
  /-- By itself it reports them and no others. -/
  alone : ∀ (catalog : Catalog) (diagram : Diagram) (graph : Graph) (region : String),
    catalog.contains resourceType = true → diagram.toGraph = .ok graph →
    ∀ node ∈ graph.nodes, node.typeName = resourceType →
      ((∃ violation ∈ ConstraintSet.violations [constraint] catalog graph region,
          violation.node = node) ↔
        ∃ parent ∈ graph.nodes, graph.Holds parent.id node.id ∧ parent.typeName ∉ names)
  /-- Among other constraints it reports the same, with what contains them. -/
  among : ∀ (set : ConstraintSet), constraint ∈ set →
    ∀ (catalog : Catalog) (diagram : Diagram) (graph : Graph) (region : String),
    catalog.contains resourceType = true → diagram.toGraph = .ok graph →
    ∀ node ∈ graph.nodes, node.typeName = resourceType → ∀ parent,
      (⟨node, .containedAmiss names parent⟩ ∈ set.violations catalog graph region ↔
        parent ∈ graph.nodes ∧ graph.Holds parent.id node.id ∧ parent.typeName ∉ names)

/-- Among other constraints one reports exactly what is contained elsewhere than it requires. -/
theorem containedAmiss_mem_violations_iff
    {constraint : Constraint}
    {names : List String}
    (required : constraint.requirement? = some (.containedOnlyIn names))
    {set : ConstraintSet}
    (member : constraint ∈ set)
    {catalog : Catalog}
    (known : catalog.contains constraint.resourceType = true)
    {diagram : Diagram}
    {graph : Graph}
    (accepted : diagram.toGraph = .ok graph)
    (region : String)
    {node : Node}
    (isNode : node ∈ graph.nodes)
    (typed : node.typeName = constraint.resourceType)
    (parent : Node) :
    ⟨node, .containedAmiss names parent⟩ ∈ set.violations catalog graph region ↔
      parent ∈ graph.nodes ∧ graph.Holds parent.id node.id ∧ parent.typeName ∉ names := by
  simp only [ConstraintSet.mem_violations_iff, Requirement.containedAmiss_mem_faults_iff,
    Graph.parent?_eq_some_iff accepted]
  constructor
  · rintro ⟨_, _, _, _, _, _, _, _, ⟨isParent, holds⟩, unlisted⟩
    exact ⟨isParent, holds, unlisted⟩
  · rintro ⟨isParent, holds, unlisted⟩
    rw [typed]
    exact ⟨isNode, known, constraint, member, rfl, _, required, rfl, ⟨isParent, holds⟩, unlisted⟩

/-- A constraint confines to the names that it requires. -/
theorem confines_of_requirement?
    {constraint : Constraint}
    {names : List String}
    (required : constraint.requirement? = some (.containedOnlyIn names)) :
    constraint.Confines constraint.resourceType names := by
  constructor
  case alone =>
    intro catalog diagram graph region known accepted node isNode typed
    rw [ConstraintSet.exists_violation_singleton_iff known isNode typed, required]
    simp only [Option.mem_some_iff, exists_eq_left',
      Requirement.faults_containedOnlyIn_ne_nil_iff accepted]
  case among =>
    intro set member catalog diagram graph region known accepted node isNode typed parent
    exact containedAmiss_mem_violations_iff required member known accepted region isNode typed
      parent

/-- A constraint of the right kind confines to the names whose printed list is its value. -/
theorem confines_typeList
    (id : Option String)
    (resourceType : String)
    {kindName : String}
    (kind : ConstraintKind.parse? kindName = some .allowedParent)
    (names : List String) :
    Confines { id, resourceType, kindName, value := typeList names } resourceType names := by
  apply confines_of_requirement?
  rw [requirement?, kind?, kind, Option.bind_some, trim_typeList, Requirement.ofKind?,
    typeNames?_typeList, Option.map_some]

end Constraint

/-! ## Lists that keep their meaning -/

/-- Read back from the value of a constraint, names are those that stand in the document from which
the constraint is read, or those of which it is made, and a constraint on containers confines to
them.  There is such a document for every list of names. -/
theorem lists_keep_meaning (names : List String) :
    (∀ (source : String) (document : Tree) (set : ConstraintSet),
      Tree.ofText? source = some document → ConstraintSet.ofJson? source = some set →
      ∀ place resourceType kindName,
        ConstraintSet.StatesList document place resourceType kindName names →
        ∃ constraint, set[place]? = some constraint ∧
          constraint.resourceType = resourceType ∧ constraint.kindName = kindName ∧
          typeNames? constraint.value = some names ∧
          (ConstraintKind.parse? kindName = some .allowedParent →
            constraint.Confines resourceType names)) ∧
    (∀ resourceType,
      typeNames? (Constraint.allowedParent resourceType names).value = some names ∧
      (Constraint.allowedParent resourceType names).Confines resourceType names) ∧
    ∀ resourceType,
      ConstraintSet.ofJson? (ConstraintSet.listing resourceType .allowedParent names).compact =
        some [.allowedParent resourceType names] := by
  refine ⟨?loaded, ?built, ?printed⟩
  case loaded =>
    intro source document set spells reads place resourceType kindName states
    obtain ⟨id, stands⟩ := states.of_ofJson? spells reads
    refine ⟨_, stands, rfl, rfl, typeNames?_typeList names, fun kind => ?_⟩
    exact Constraint.confines_typeList id resourceType kind names
  case built =>
    intro resourceType
    have kind : ConstraintKind.parse? "allowed_parent" = some .allowedParent := by decide
    exact ⟨typeNames?_typeList names, Constraint.confines_typeList none resourceType kind names⟩
  case printed =>
    intro resourceType
    exact ConstraintSet.ofJson?_compact_listing resourceType .allowedParent names

/-- Names keep their spaces and their quotes. -/
theorem lists_keep_meaning_of_quoted :
    ∃ document set,
      Tree.ofText? (ConstraintSet.listing "Server" .allowedParent
        ["Load Balancer", "\"Edge\""]).compact = some document ∧
      ConstraintSet.ofJson? (ConstraintSet.listing "Server" .allowedParent
        ["Load Balancer", "\"Edge\""]).compact = some set ∧
      ConstraintSet.StatesList document 0 "Server" "allowed_parent"
        ["Load Balancer", "\"Edge\""] ∧
      ConstraintKind.parse? "allowed_parent" = some .allowedParent ∧
      ∃ constraint, set[0]? = some constraint ∧
        typeNames? constraint.value = some ["Load Balancer", "\"Edge\""] ∧
        constraint.Confines "Server" ["Load Balancer", "\"Edge\""] := by
  have spells := (ConstraintSet.readsBack_listing "Server" .allowedParent
    ["Load Balancer", "\"Edge\""]).ofText?_compact
  have reads := ConstraintSet.ofJson?_compact_listing "Server" .allowedParent
    ["Load Balancer", "\"Edge\""]
  have isItem : Constraint.StatesList
      (Constraint.listingTree "Server" .allowedParent ["Load Balancer", "\"Edge\""])
      "Server" "allowed_parent" ["Load Balancer", "\"Edge\""] := by
    constructor
    all_goals exact .member (by simp [ConstraintKind.name])
  have states : ConstraintSet.StatesList
      (ConstraintSet.listingTree "Server" .allowedParent ["Load Balancer", "\"Edge\""]) 0
      "Server" "allowed_parent" ["Load Balancer", "\"Edge\""] :=
    .item (.object List.mem_cons_self) rfl isItem
  have kind : ConstraintKind.parse? "allowed_parent" = some .allowedParent := by decide
  obtain ⟨constraint, stands, _, _, names, confines⟩ :=
    (lists_keep_meaning ["Load Balancer", "\"Edge\""]).1 _ _ _ spells reads 0 _ _ states
  exact ⟨_, _, spells, reads, states, kind, constraint, stands, names, confines kind⟩

end CloudPlan
