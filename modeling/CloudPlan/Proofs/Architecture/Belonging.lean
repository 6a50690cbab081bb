import CloudPlan.Proofs.Architecture.Growth
import CloudPlan.Proofs.Catalog.Resolution

/-!
# Resources of another provider

What is drawn is of types that are registered for the provider.  A rule needs only a type
that is known, so what it adds belongs to the provider exactly when the type it names does.
-/

namespace CloudPlan.Architecture

variable {architecture : Architecture} {catalog : Catalog} {graph : Graph}
  {provider : Provider} {region : String}

/-- The resource with the id of a node has grown from that of the node. -/
theorem growth_of_id_eq
    (forest : graph.IsForest)
    (made : ofGraph catalog graph provider region = .ok architecture)
    {node : Node}
    (nodeMember : node ∈ graph.nodes)
    {resource : Resource}
    (member : resource ∈ architecture.resources)
    (sameId : resource.id = node.id) :
    (ofNode graph node).GrowsTo resource := by
  obtain ⟨grown, grownMember, growth⟩ := grows_of_ofGraph forest made _
    (List.mem_map_of_mem nodeMember)
  have distinct := (wellLinked_of_ofGraph forest made).distinct
  obtain rfl : grown = resource :=
    List.inj_on_of_nodup_map distinct grownMember member (growth.id.trans sameId.symm)
  exact growth

/-- What a node demands is there. -/
theorem exists_demanded
    (forest : graph.IsForest)
    (made : ofGraph catalog graph provider region = .ok architecture)
    {node : Node}
    (nodeMember : node ∈ graph.nodes)
    {rule : HiddenRule}
    (demands : Demands catalog provider node rule) :
    ∃ resource ∈ architecture.resources, resource.typeName = rule.childType := by
  obtain ⟨parent, parentMember, sameId, wanted, wants, linked⟩ :=
    provides_of_ofGraph made nodeMember demands.filed demands.covers
  obtain ⟨count, demanded⟩ := demands.wanted
  have growth := growth_of_id_eq forest made nodeMember parentMember sameId
  rw [growth.config] at wants
  obtain rfl := Except.ok.inj (demanded.symm.trans wants)
  obtain ⟨child, childMember, isType, _⟩ :=
    exists_linked_of_linkedCount_pos ((Nat.succ_pos count).trans_le linked)
  exact ⟨child, childMember, isType⟩

/-- All that is drawn resolves for the provider and all that is added resolves; it resolves for
the provider exactly when all do that the rules for the nodes add. -/
theorem all_belong_iff
    {diagram : Diagram}
    (resolved : diagram.toGraph = .ok graph)
    (made : ofGraph catalog graph provider region = .ok architecture) :
    (∀ resource ∈ architecture.resources, ∃ type,
      catalog.resolve resource.typeName = .ok type) ∧
    (∀ resource ∈ architecture.resources, resource.id ∈ graph.ids →
      ∃ type, catalog.resolveFor resource.typeName provider = .ok type) ∧
    ((∀ resource ∈ architecture.resources,
        ∃ type, catalog.resolveFor resource.typeName provider = .ok type) ↔
      ∀ node ∈ graph.nodes, ∀ rule, Demands catalog provider node rule →
        ∃ type, catalog.resolveFor rule.childType provider = .ok type) := by
  have forest := Diagram.isForest_of_toGraph resolved
  have drawnResolves {node : Node} (nodeMember : node ∈ graph.nodes) {resource : Resource}
      (growth : (ofNode graph node).GrowsTo resource) :
      ∃ type, catalog.resolveFor resource.typeName provider = .ok type :=
    growth.typeName ▸ resolves_of_ofGraph made nodeMember
  refine ⟨?_, ?_, ?_, ?_⟩
  · intro resource member
    rcases origin_of_ofGraph forest made member with
      ⟨node, nodeMember, growth⟩ | ⟨_, _, rule, demands, isType⟩
    · obtain ⟨type, resolves⟩ := drawnResolves nodeMember growth
      exact ⟨type, (Catalog.resolveFor_eq_ok_iff.1 resolves).1⟩
    · obtain ⟨_, wants⟩ := demands.wanted
      exact isType ▸ (wantedCount_eq_some_iff.1 wants).2.2
  · intro resource member isDrawn
    obtain ⟨node, nodeMember, sameId⟩ := List.mem_map.1 isDrawn
    exact drawnResolves nodeMember (growth_of_id_eq forest made nodeMember member sameId.symm)
  · intro belong node nodeMember rule demands
    obtain ⟨resource, member, isType⟩ := exists_demanded forest made nodeMember demands
    exact isType ▸ belong resource member
  · intro rulesBelong resource member
    rcases origin_of_ofGraph forest made member with
      ⟨node, nodeMember, growth⟩ | ⟨node, nodeMember, rule, demands, isType⟩
    · exact drawnResolves nodeMember growth
    · exact isType ▸ rulesBelong node nodeMember rule demands

/-- A diagram of one server. -/
def oneServer : Diagram where
  nodes := [{ id := "web", typeName := "Server" }]

/-- Servers depend on disks, which some provider offers. -/
def serversWithDisks (provider : Provider) : Catalog :=
  Catalog.empty
    |>.register (.regional "Server" .compute "server" .aws)
      [{ parentType := "Server", childType := "Disk", quantity := "" }]
    |>.register (.regional "Disk" .storage "disk" provider) []

/-- A disk of the same provider belongs to it. -/
theorem all_belong_with_disk :
    ∃ graph made, oneServer.toGraph = .ok graph ∧
      ofGraph (serversWithDisks .aws) graph .aws "" = .ok made ∧
      made.ids = ["web", "web-disk-1"] ∧
      ∀ resource ∈ made.resources,
        ∃ type, (serversWithDisks .aws).resolveFor resource.typeName .aws = .ok type := by
  have makes : ∃ graph made, oneServer.toGraph = .ok graph ∧
      ofGraph (serversWithDisks .aws) graph .aws "" = .ok made ∧
      made.ids = ["web", "web-disk-1"] := ⟨_, _, rfl, rfl, rfl⟩
  obtain ⟨graph, made, resolved, isMade, ids⟩ := makes
  refine ⟨graph, made, resolved, isMade, ids, (all_belong_iff resolved isMade).2.2.2 ?_⟩
  intro node _ rule demands
  have isDisk : rule.childType = "Disk" :=
    congrArg (·.2.childType) (List.mem_singleton.1 demands.filed)
  exact isDisk ▸ ⟨_, rfl⟩

/-- A disk that only another provider offers is added all the same. -/
theorem not_all_belong_with_foreign_disk :
    ∃ graph made, oneServer.toGraph = .ok graph ∧
      ofGraph (serversWithDisks .gcp) graph .aws "" = .ok made ∧
      ∃ resource ∈ made.resources, resource.id = "web-disk-1" ∧
        (serversWithDisks .gcp).resolveFor resource.typeName .aws =
          .error (.otherProvider "Disk" .gcp .aws) :=
  ⟨_, _, rfl, rfl, _, List.mem_cons_of_mem _ List.mem_cons_self, rfl, rfl⟩

end CloudPlan.Architecture
