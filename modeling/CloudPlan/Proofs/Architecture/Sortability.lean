import CloudPlan.Proofs.Architecture.Reachable

/-!
# Whether drawings can be sorted

What a rule adds comes last or comes first: contents precede nothing, and what a
resource was given to depend on is preceded by nothing.  So an expansion adds no cycle,
and the architecture of a diagram can be sorted exactly when what is drawn has none.
-/

namespace CloudPlan

/-- What is drawn: containers come before their contents, targets of dependencies before
their sources. -/
inductive Diagram.Draws (diagram : Diagram) : String → String → Prop
  | containment {container content : String} :
      diagram.container? content = some container → Draws diagram container content
  | dependency {edge : Edge} :
      edge ∈ diagram.edges → edge.kind = .dependency →
      Draws diagram edge.target edge.source

theorem Diagram.exists_dependency_iff (diagram : Diagram) (source target : String) :
    (∃ edge ∈ diagram.dependencies, edge.source = source ∧ edge.target = target) ↔
      ∃ edge ∈ diagram.edges, edge.kind = .dependency ∧
        edge.source = source ∧ edge.target = target := by
  simp [Diagram.dependencies, and_assoc]

namespace Architecture

variable {architecture other : Architecture} {rule : HiddenRule} {parent : String}
  {ids : List String}

/-! ## Drawn precedence -/

theorem draws_of_precedes
    {diagram : Diagram}
    (acceptable : diagram.Acceptable)
    {provider : Provider}
    {region before after : String}
    (precedes : (drawn diagram.resolvedGraph provider region).Precedes before after) :
    diagram.Draws before after := by
  have parents := Diagram.parentId?_resolvedGraph acceptable.nodesApart acceptable.endsKnown
  cases precedes with
  | parent member linked =>
      obtain ⟨node, _, rfl⟩ := List.mem_map.1 member
      rw [mem_parents_ofNode, parents] at linked
      exact Diagram.Draws.containment linked
  | child member linked =>
      obtain ⟨node, _, rfl⟩ := List.mem_map.1 member
      rw [mem_children_ofNode, parents] at linked
      exact Diagram.Draws.containment linked.2
  | dependency member linked =>
      obtain ⟨node, _, rfl⟩ := List.mem_map.1 member
      obtain ⟨edge, inDiagram, isDependency, isSource, rfl⟩ :=
        (diagram.exists_dependency_iff _ _).1 ((mem_targets_ofNode node _).1 linked)
      have draws := Diagram.Draws.dependency inDiagram isDependency
      rw [isSource] at draws
      exact draws

theorem precedes_of_draws
    {diagram : Diagram}
    (acceptable : diagram.Acceptable)
    (provider : Provider)
    (region : String)
    {before after : String}
    (draws : diagram.Draws before after) :
    (drawn diagram.resolvedGraph provider region).Precedes before after := by
  have parents := Diagram.parentId?_resolvedGraph acceptable.nodesApart acceptable.endsKnown
  have drawnMember : ∀ node ∈ diagram.nodes,
      ofNode diagram.resolvedGraph node ∈ (drawn diagram.resolvedGraph provider region).resources :=
    fun node member => List.mem_map.2 ⟨node, member, rfl⟩
  cases draws with
  | containment isContainer =>
      rw [← parents] at isContainer
      obtain ⟨known, _⟩ := Diagram.joined_resolvedGraph acceptable.nodesApart
        acceptable.endsKnown acceptable.parentsKnown _ _ isContainer
      obtain ⟨node, nodeMember, rfl⟩ := List.mem_map.1 known
      exact Precedes.parent (drawnMember node nodeMember)
        ((mem_parents_ofNode node before).2 isContainer)
  | dependency inDiagram isDependency =>
      obtain ⟨node, nodeMember, isSource⟩ := List.mem_map.1 (acceptable.endsKnown _ inDiagram).1
      have resolvedEdge := (diagram.exists_dependency_iff node.id _).2
        ⟨_, inDiagram, isDependency, isSource.symm, rfl⟩
      rw [← isSource]
      exact Precedes.dependency (drawnMember node nodeMember)
        ((mem_targets_ofNode node _).2 resolvedEdge)

/-- In the architecture that a diagram draws precedence is what is drawn. -/
theorem precedes_drawn
    {diagram : Diagram}
    {graph : Graph}
    (resolved : diagram.toGraph = .ok graph)
    (provider : Provider)
    (region : String) :
    (drawn graph provider region).Precedes = diagram.Draws := by
  obtain ⟨acceptable, rfl⟩ := (Diagram.toGraph_eq_ok_iff diagram _).1 resolved
  funext before after
  exact propext ⟨draws_of_precedes acceptable, precedes_of_draws acceptable provider region⟩

/-! ## Additions -/

theorem precedes_extended_iff
    (parentKnown : parent ∈ architecture.ids)
    (before after : String) :
    (architecture.extended rule parent ids).Precedes before after ↔
      architecture.Precedes before after ∨
        if rule.isAttached then before = parent ∧ after ∈ ids
        else before ∈ ids ∧ after = parent := by
  have addsEdge : (∃ link, AddsLink rule parent ids link ∧ link.edge = ⟨before, after⟩) ↔
      if rule.isAttached then before = parent ∧ after ∈ ids
      else before ∈ ids ∧ after = parent := by
    constructor
    · rintro ⟨⟨owner, relation, target⟩, adds, isEdge⟩
      cases relation <;> obtain ⟨rfl, rfl⟩ := ProvisioningEdge.mk.inj isEdge
      case parent =>
        obtain ⟨attached, isParent, isNew⟩ := adds
        rw [if_pos attached]
        exact ⟨isParent, isNew⟩
      case child =>
        obtain ⟨attached, isParent, isNew⟩ := adds
        rw [if_pos attached]
        exact ⟨isParent, isNew⟩
      case dependency =>
        obtain ⟨detached, isParent, isNew⟩ := adds
        rw [detached]
        exact ⟨isNew, isParent⟩
    · split_ifs with attached
      · rintro ⟨isParent, isNew⟩
        exact ⟨⟨before, .child, after⟩, ⟨attached, isParent, isNew⟩, rfl⟩
      · rintro ⟨isNew, isParent⟩
        exact ⟨⟨after, .dependency, before⟩, ⟨by simpa using attached, isParent, isNew⟩, rfl⟩
  rw [← addsEdge, precedes_iff_exists_link, precedes_iff_exists_link, ← exists_or]
  refine exists_congr fun link => ?_
  rw [mem_links_extended parentKnown, or_and_right]

/-- Listing the resources in another order does not change what precedes what. -/
theorem Precedes.of_perm
    (resources : other.resources.Perm architecture.resources)
    {before after : String}
    (precedes : other.Precedes before after) :
    architecture.Precedes before after := by
  cases precedes with
  | parent member linked => exact Precedes.parent (resources.mem_iff.1 member) linked
  | child member linked => exact Precedes.child (resources.mem_iff.1 member) linked
  | dependency member linked => exact Precedes.dependency (resources.mem_iff.1 member) linked

theorem acyclic_iff_of_perm
    (resources : other.resources.Perm architecture.resources) :
    Acyclic other.Precedes ↔ Acyclic architecture.Precedes :=
  ⟨fun acyclic => acyclic.mono fun _ _ => Precedes.of_perm resources.symm,
    fun acyclic => acyclic.mono fun _ _ => Precedes.of_perm resources⟩

/-- Contents that are added precede nothing, prerequisites that are added are preceded by
nothing, so an addition adds no cycle. -/
theorem Closed.acyclic_extended_iff
    (closed : architecture.Closed)
    (rule : HiddenRule)
    (addable : Addable architecture parent ids) :
    Acyclic (architecture.extended rule parent ids).Precedes ↔
      Acyclic architecture.Precedes := by
  have notParent : parent ∉ ids := fun isNew => addable.fresh parent isNew addable.parentKnown
  have precedesIff := @precedes_extended_iff architecture rule parent ids addable.parentKnown
  constructor
  · intro acyclic
    exact acyclic.mono fun before after precedes => (precedesIff before after).2 (Or.inl precedes)
  · intro acyclic
    by_cases attached : rule.isAttached
    · simp only [attached, if_true] at precedesIff
      apply acyclic.of_sinks
      intro before after precedes
      rcases (precedesIff before after).1 precedes with old | ⟨_, isNew⟩
      · exact Or.inl old
      · refine Or.inr fun later leaves => ?_
        rcases (precedesIff after later).1 leaves with old | ⟨rfl, _⟩
        · exact addable.fresh after isNew (closed.mem_ids old).1
        · exact notParent isNew
    · simp only [attached] at precedesIff
      apply acyclic.of_sources
      intro before after precedes
      rcases (precedesIff before after).1 precedes with old | ⟨isNew, _⟩
      · exact Or.inl old
      · refine Or.inr fun earlier enters => ?_
        rcases (precedesIff earlier before).1 enters with old | ⟨_, rfl⟩
        · exact addable.fresh before isNew (closed.mem_ids old).2
        · exact notParent isNew

/-- Whether or not a rule fails, an expansion adds no cycle. -/
theorem acyclic_expand_iff
    (wellLinked : architecture.WellLinked)
    (catalog : Catalog) :
    Acyclic (expand catalog architecture).architecture.Precedes ↔
      Acyclic architecture.Precedes := by
  have both : (expand catalog architecture).architecture.WellLinked ∧
      (Acyclic (expand catalog architecture).architecture.Precedes ↔
        Acyclic architecture.Precedes) := by
    refine expand_induction (fun grown => grown.WellLinked ∧
      (Acyclic grown.Precedes ↔ Acyclic architecture.Precedes)) ?_ catalog ⟨wellLinked, Iff.rfl⟩
    rintro grown rule parent ids ⟨grownLinked, unchanged⟩ addable
    have added : (addChildren grown rule parent ids).resources.Perm
        (grown.extended rule parent ids).resources := addChildren_perm grownLinked.distinct
    constructor
    · exact (grownLinked.extended rule addable).of_perm added
    · rw [acyclic_iff_of_perm added, grownLinked.closed.acyclic_extended_iff rule addable]
      exact unchanged
  exact both.2

/-- Expansions never make a diagram unsortable: its architecture can be sorted exactly
when what is drawn has no cycle, and otherwise a cycle is reported. -/
theorem sortable_iff_drawn_acyclic
    {diagram : Diagram}
    {graph : Graph}
    {catalog : Catalog}
    {provider : Provider}
    {region : String}
    {architecture : Architecture}
    (resolved : diagram.toGraph = .ok graph)
    (made : ofGraph catalog graph provider region = .ok architecture) :
    ((∃ sorted, architecture.sort = .ok sorted) ↔ Acyclic diagram.Draws) ∧
    (¬ Acyclic diagram.Draws → ∃ cycle, architecture.sort = .error (.cyclic cycle)) ∧
    ∀ error, architecture.sort = .error error → error.code ≠ "InvalidArchitecture" := by
  have forest := Diagram.isForest_of_toGraph resolved
  have closed := (wellLinked_of_ofGraph forest made).closed
  have unchanged : Acyclic architecture.Precedes ↔ Acyclic diagram.Draws := by
    obtain ⟨_, _, rfl⟩ := ofGraph_eq_ok_iff.1 made
    rw [acyclic_expand_iff (wellLinked_drawn forest), precedes_drawn resolved]
  have succeeds := closed.sort_succeeds_iff.trans unchanged
  refine ⟨succeeds, ?_, ?_⟩
  · intro cyclic
    exact closed.sort_eq_cyclic (mt succeeds.1 cyclic)
  · intro error fails
    have unsortable : ¬ ∃ sorted, architecture.sort = .ok sorted := by simp [fails]
    obtain ⟨cycle, reported⟩ := closed.sort_eq_cyclic unsortable
    obtain rfl := Except.error.inj (fails.symm.trans reported)
    simp [Error.code]

/-- With the gateway that nobody drew the network can be sorted, so what is drawn has no
cycle. -/
theorem sortable_network :
    ∃ graph made, Diagram.network.toGraph = .ok graph ∧
      ofGraph { interrupting with rules := interrupting.rules.take 1 } graph .aws "" = .ok made ∧
      made.ids = ["net", "net-gateway-1", "web", "db"] ∧
      Acyclic Diagram.network.Draws := by
  have sorts : ∃ graph made sorted, Diagram.network.toGraph = .ok graph ∧
      ofGraph { interrupting with rules := interrupting.rules.take 1 } graph .aws "" = .ok made ∧
      made.ids = ["net", "net-gateway-1", "web", "db"] ∧ made.sort = .ok sorted :=
    ⟨_, _, _, rfl, rfl, rfl, rfl⟩
  obtain ⟨graph, made, sorted, resolved, isMade, ids, succeeds⟩ := sorts
  exact ⟨graph, made, resolved, isMade, ids,
    (sortable_iff_drawn_acyclic resolved isMade).1.1 ⟨sorted, succeeds⟩⟩

end Architecture

end CloudPlan
