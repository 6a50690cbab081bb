import CloudPlan.Proofs.Constraint.Compliance
import CloudPlan.Proofs.Constraint.Values
import CloudPlan.Proofs.Diagram.Resolution
import Mathlib.Tactic.ByContra

/-!
# Required containers

A constraint that requires containers of some types says so in its value: several types are
printed as a list, a single type stands there as it is.  The list says what is meant.  The
single type does when it can be told from the other things that the value may say.
-/

namespace CloudPlan

/-! ## Reports -/

/-- A node breaks the demand for a container when there is no container, or when types are
demanded and the container is of none of them. -/
theorem Requirement.faults_contained_ne_nil_iff
    {allowed : Option (List String)}
    {graph : Graph}
    {region : String}
    {node : Node} :
    (contained allowed).faults graph region node ≠ [] ↔
      ∀ parent ∈ graph.parent? node.id, ∃ names ∈ allowed, parent.typeName ∉ names := by
  cases found : graph.parent? node.id with
  | none => simp [faults, found]
  | some parent => cases allowed <;> simp [faults, found]

/-! ## Values -/

/-- A value demands one thing at most. -/
theorem DemandsParent.unique
    {value : String}
    (trimmed : Text.trim value = value)
    {first second : Option (List String)}
    (demands : DemandsParent value first)
    (demandsToo : DemandsParent value second) :
    first = second := by
  have read := (Requirement.ofKind?_requiresParent_eq_some_iff trimmed).2 ⟨_, demands, rfl⟩
  have readToo := (Requirement.ofKind?_requiresParent_eq_some_iff trimmed).2 ⟨_, demandsToo, rfl⟩
  exact Requirement.contained.inj (Option.some.inj (read.symm.trans readToo))

/-- A name that a value may hold as it is: nothing in it is blank, it opens no list, and it is
none of the words that switch the demand for a container on or off. -/
structure IsBareName (name : String) : Prop where
  /-- It is not empty. -/
  filled : name ≠ ""
  /-- It has no blanks. -/
  unbroken : ∀ c ∈ name.toList, Text.isBlank c = false
  /-- It opens no list. -/
  plain : name.toList.head? ≠ some '['
  /-- It does not demand a container of any type. -/
  notTrue : Text.lowerAscii name ≠ "true"
  /-- It does not switch the demand off. -/
  notFalse : Text.lowerAscii name ≠ "false"

theorem IsBareName.demandsParent
    {name : String}
    (bare : IsBareName name) :
    DemandsParent (Text.trim name) (some [name]) := by
  have trimmed : Text.trim name = name :=
    Text.trim_eq_self (fun c first => bare.unbroken c (List.mem_of_mem_head? first))
      (fun c last => bare.unbroken c (List.mem_of_getLast? last))
  rw [trimmed]
  exact .oneOf bare.notTrue bare.notFalse (.bare bare.filled bare.plain bare.unbroken)

/-- A printed list of names demands a container of one of the names. -/
theorem demandsParent_typeList (names : List String) :
    DemandsParent (Text.trim (Constraint.typeList names)) (some names) := by
  obtain ⟨inside, printed⟩ := toList_typeList names
  have noWord : ∀ word : String, word.toList.head? ≠ some '[' →
      Text.lowerAscii (Constraint.typeList names) ≠ word := by
    rintro _ other rfl
    apply other
    rw [Text.lowerAscii, String.toList_ofList, printed]
    rfl
  rw [trim_typeList]
  exact .oneOf (noWord _ (by decide)) (noWord _ (by decide)) (listsNames_typeList names)

/-! ## A container and what it contains -/

/-- A resource in a container. -/
def Diagram.nest (containerType resourceType : String) : Diagram where
  nodes := [
    { id := "outer", typeName := containerType },
    { id := "inner", typeName := resourceType, parentId := some "outer" }]

/-- The graph of a resource in a container. -/
def Graph.nest (containerType resourceType : String) : Graph where
  nodes := (Diagram.nest containerType resourceType).nodes
  containment := [.containing "inner:parent" "outer" "inner"]
  dependency := []

theorem Diagram.toGraph_nest
    {containerType resourceType : String}
    (containerNamed : Text.isBlankText containerType = false)
    (named : Text.isBlankText resourceType = false) :
    (Diagram.nest containerType resourceType).toGraph =
      .ok (.nest containerType resourceType) := by
  have outer : Text.isBlankText "outer" = false := by decide
  have inner : Text.isBlankText "inner" = false := by decide
  simp only [Diagram.toGraph, Diagram.nest, Diagram.checkNodes, outer, inner, containerNamed,
    named]
  rfl

/-! ## Enforcement -/

/-- A constraint that requires containers demands what its value says, whatever blanks stand at
the ends of the value. -/
theorem Constraint.mem_requirement?_requiresParent
    {resourceType : String}
    {names : List String}
    {requirement : Requirement} :
    requirement ∈ (Constraint.requiresParent resourceType names).requirement? ↔
      ∃ allowed,
        DemandsParent (Text.trim (Constraint.requiresParent resourceType names).value) allowed ∧
          .contained allowed = requirement := by
  have kind : (Constraint.requiresParent resourceType names).kind? = some .requiresParent :=
    (by decide : ConstraintKind.parse? "requires_parent" = some .requiresParent)
  rw [Constraint.requirement?, kind, Option.bind_some, Option.mem_def]
  exact Requirement.ofKind?_requiresParent_eq_some_iff (Text.trim_trim _)

/-- Of the resources of a type, those are reported that no container of one of the given types
contains. -/
def EnforcesParents (catalog : Catalog) (resourceType : String) (names : List String) : Prop :=
  ∀ (diagram : Diagram) (graph : Graph) (region : String), diagram.toGraph = .ok graph →
    ∀ node ∈ graph.nodes, node.typeName = resourceType →
      ((∃ violation ∈
          ConstraintSet.violations [.requiresParent resourceType names] catalog graph region,
          violation.node = node) ↔
        ∀ parent ∈ graph.parent? node.id, parent.typeName ∉ names)

section enforced

variable {catalog : Catalog} {resourceType : String}

/-- The resources that are reported break what the value demands. -/
theorem exists_violation_requiresParent_iff
    (known : catalog.contains resourceType = true)
    (names : List String)
    {graph : Graph}
    (region : String)
    {node : Node}
    (isNode : node ∈ graph.nodes)
    (typed : node.typeName = resourceType) :
    (∃ violation ∈
        ConstraintSet.violations [.requiresParent resourceType names] catalog graph region,
        violation.node = node) ↔
      ∃ allowed,
        DemandsParent (Text.trim (Constraint.requiresParent resourceType names).value) allowed ∧
          ∀ parent ∈ graph.parent? node.id, ∃ listed ∈ allowed, parent.typeName ∉ listed := by
  rw [ConstraintSet.exists_violation_singleton_iff known isNode typed]
  constructor
  · rintro ⟨requirement, required, broken⟩
    obtain ⟨allowed, demands, rfl⟩ := Constraint.mem_requirement?_requiresParent.1 required
    exact ⟨allowed, demands, Requirement.faults_contained_ne_nil_iff.1 broken⟩
  · rintro ⟨allowed, demands, broken⟩
    exact ⟨_, Constraint.mem_requirement?_requiresParent.2 ⟨allowed, demands, rfl⟩,
      Requirement.faults_contained_ne_nil_iff.2 broken⟩

/-- What the value demands is enforced. -/
theorem enforcesParents_of_demandsParent
    (known : catalog.contains resourceType = true)
    {names : List String}
    (demands : DemandsParent (Text.trim (Constraint.requiresParent resourceType names).value)
      (some names)) :
    EnforcesParents catalog resourceType names := by
  intro diagram graph region _ node isNode typed
  rw [exists_violation_requiresParent_iff known names region isNode typed]
  constructor
  · rintro ⟨allowed, demandsToo, broken⟩ parent isParent
    obtain rfl := DemandsParent.unique (Text.trim_trim _) demands demandsToo
    obtain ⟨listed, same, unlisted⟩ := broken parent isParent
    obtain rfl := Option.some.inj same
    exact unlisted
  · intro unlisted
    exact ⟨some names, demands, fun parent isParent => ⟨names, rfl, unlisted parent isParent⟩⟩

section necessary

variable (known : catalog.contains resourceType = true)
  (named : Text.isBlankText resourceType = false)

include known named

/-- A resource in a container is reported exactly when the container is of no type that is
given, if the types are enforced. -/
theorem EnforcesParents.demands_of_nest
    {names : List String}
    (enforces : EnforcesParents catalog resourceType names)
    {containerType : String}
    (containerNamed : Text.isBlankText containerType = false) :
    (∃ allowed,
        DemandsParent (Text.trim (Constraint.requiresParent resourceType names).value) allowed ∧
          ∃ listed ∈ allowed, containerType ∉ listed) ↔
      containerType ∉ names := by
  have accepted := Diagram.toGraph_nest containerNamed named
  have isNode : { id := "inner", typeName := resourceType, parentId := some "outer" } ∈
      (Graph.nest containerType resourceType).nodes := List.mem_cons_of_mem _ List.mem_cons_self
  have enforced := enforces _ _ "" accepted _ isNode rfl
  rw [exists_violation_requiresParent_iff known names "" isNode rfl] at enforced
  have contained : (Graph.nest containerType resourceType).parent? "inner" =
      some { id := "outer", typeName := containerType } := rfl
  simpa only [contained, Option.mem_some_iff, forall_eq'] using enforced

/-- If the types are enforced, a resource that nothing contains is reported, so the value demands
something. -/
theorem EnforcesParents.exists_demand
    {names : List String}
    (enforces : EnforcesParents catalog resourceType names) :
    ∃ allowed,
      DemandsParent (Text.trim (Constraint.requiresParent resourceType names).value) allowed := by
  have accepted := Diagram.toGraph_nest named named
  have isNode : { id := "outer", typeName := resourceType } ∈
      (Graph.nest resourceType resourceType).nodes := List.mem_cons_self
  have enforced := enforces _ _ "" accepted _ isNode rfl
  have nowhere : (Graph.nest resourceType resourceType).parent? "outer" = none := rfl
  rw [exists_violation_requiresParent_iff known names "" isNode rfl] at enforced
  obtain ⟨allowed, demands, _⟩ := enforced.2 (by simp [nowhere])
  exact ⟨allowed, demands⟩

/-- A single type that is enforced can be told from everything else that the value may say. -/
theorem EnforcesParents.isBareName
    {name : String}
    (enforces : EnforcesParents catalog resourceType [name]) :
    IsBareName name := by
  have trimmed := Text.trim_trim name
  have value : (Constraint.requiresParent resourceType [name]).value = name := rfl
  obtain ⟨allowed, demands⟩ := enforces.exists_demand known named
  rw [value] at demands
  cases demands with
  | any switched =>
      -- A container of another type would have to be reported, but any container will do.
      have another : name ++ "x" ∉ [name] := by
        rw [List.mem_singleton, ← String.toList_inj, String.toList_append]
        simp
      have filled : Text.isBlankText (name ++ "x") = false := by
        simp [Text.isBlankText, Text.isBlank]
      obtain ⟨other, demandsToo, listed, same, _⟩ :=
        (enforces.demands_of_nest known named filled).2 another
      rw [value] at demandsToo
      rw [DemandsParent.unique trimmed demandsToo (.any switched)] at same
      contradiction
  | @oneOf listed notTrue notFalse lists =>
      have member : name ∈ listed := by
        have filled : Text.isBlankText name = false := by
          by_contra blank
          rw [Text.trim_of_isBlankText (Bool.eq_true_of_not_eq_false blank)] at lists
          exact Requirement.not_listsNames_empty _ lists
        by_contra unlisted
        have reported := (enforces.demands_of_nest known named filled).1
          ⟨some listed, .oneOf notTrue notFalse lists, listed, rfl, unlisted⟩
        exact reported List.mem_cons_self
      cases lists with
      | list opens spells =>
          -- The name would be the text of a list that it stands in, and every list is longer.
          have shorter := Json.Value.length_of_parse?_eq_ofTexts spells name member
          have trims := Text.length_trim_le name
          omega
      | bare filled plain unbroken =>
          rw [List.mem_singleton] at member
          rw [← member] at filled plain unbroken notTrue notFalse
          exact ⟨filled, unbroken, plain, notTrue, notFalse⟩

end necessary

/-- The given types are enforced exactly when there are several of them, or one that can be told
from everything else that the value may say.  Of a blank type there are no resources. -/
theorem enforcesParents_iff
    (known : catalog.contains resourceType = true)
    {names : List String}
    (given : names ≠ []) :
    EnforcesParents catalog resourceType names ↔
      Text.isBlankText resourceType = true ∨ 2 ≤ names.length ∨
        ∃ name, names = [name] ∧ IsBareName name := by
  constructor
  · intro enforces
    rw [or_iff_not_imp_left, Bool.not_eq_true]
    intro named
    match names with
    | [] => exact absurd rfl given
    | [name] => exact Or.inr ⟨name, rfl, enforces.isBareName known named⟩
    | _ :: _ :: _ => exact Or.inl (Nat.le_add_left _ _)
  · rintro (blank | several | ⟨name, rfl, bare⟩)
    · rintro diagram graph region accepted node isNode rfl
      obtain ⟨acceptable, rfl⟩ := (Diagram.toGraph_eq_ok_iff _ _).1 accepted
      rw [(acceptable.named node isNode).2] at blank
      contradiction
    · match names, several with
      | first :: second :: rest, _ =>
        exact enforcesParents_of_demandsParent known (demandsParent_typeList _)
    · exact enforcesParents_of_demandsParent known bare.demandsParent

end enforced

/-- One type of resources, without hidden rules. -/
def serverCatalog : Catalog :=
  Catalog.empty.register (.regional "Server" .compute "server" .aws) []

/-- A single name of letters is enforced. -/
theorem enforcesParents_network :
    serverCatalog.contains "Server" = true ∧ ["Network"] ≠ [] ∧
      EnforcesParents serverCatalog "Server" ["Network"] := by
  have bare : IsBareName "Network" :=
    ⟨by decide, by simp [Text.isBlank], by decide, by decide, by decide⟩
  exact ⟨by decide, by decide,
    (enforcesParents_iff (by decide) (by decide)).2 (Or.inr (Or.inr ⟨_, rfl, bare⟩))⟩

/-- A single name with a space in it is not: the value demands nothing, and a server that nothing
contains is not reported. -/
theorem not_enforcesParents_loadBalancer :
    serverCatalog.contains "Server" = true ∧
      (∃ graph, Diagram.toGraph { nodes := [{ id := "web", typeName := "Server" }] } = .ok graph ∧
        graph.parent? "web" = none ∧
        ConstraintSet.violations [.requiresParent "Server" ["Load Balancer"]] serverCatalog graph
          "" = []) ∧
      ¬ EnforcesParents serverCatalog "Server" ["Load Balancer"] := by
  have accepted : Diagram.toGraph { nodes := [{ id := "web", typeName := "Server" }] } =
      .ok ⟨[{ id := "web", typeName := "Server" }], [], []⟩ := rfl
  have nothing : (Constraint.requiresParent "Server" ["Load Balancer"]).requirement? = none := by
    decide
  have silent : ConstraintSet.violations [.requiresParent "Server" ["Load Balancer"]] serverCatalog
      ⟨[{ id := "web", typeName := "Server" }], [], []⟩ "" = [] := by
    rw [ConstraintSet.violations_eq_nil_iff]
    intro node _ _ constraint member _ requirement required
    obtain rfl := List.mem_singleton.1 member
    exact absurd (nothing ▸ required) (Option.not_mem_none requirement)
  have nowhere : Graph.parent? ⟨[{ id := "web", typeName := "Server" }], [], []⟩ "web" = none := rfl
  refine ⟨by decide, ⟨_, accepted, nowhere, silent⟩, fun enforces => ?_⟩
  have reported := (enforces _ _ "" accepted _ List.mem_cons_self rfl).2 (by simp [nowhere])
  rw [silent] at reported
  simp at reported

end CloudPlan
