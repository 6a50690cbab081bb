import CloudPlan.Proofs.Architecture.Idempotence
import CloudPlan.Proofs.Architecture.Shortfall
import CloudPlan.Proofs.Catalog.Aws
import Mathlib.Data.List.Dedup

/-!
# Links that are drawn twice

A rule counts links, not what they lead to.  What it adds are different resources, but a
diagram may draw several dependencies between the same two nodes, and each of them counts.
So a rule is content with too few resources exactly where dependencies are drawn more than
once and it asks for more than the different resources that they lead to.
-/

namespace CloudPlan.Architecture

variable {architecture : Architecture} {catalog : Catalog} {rule : HiddenRule}
  {parent typeName : String} {attached : Bool} {ids : List String}

/-- How many different resources of a type some ids lead to. -/
def differentCount (architecture : Architecture) (typeName : String) (ids : List String) : Nat :=
  architecture.resources.countP fun resource => resource.typeName = typeName ∧ resource.id ∈ ids

/-! ## What rules add -/

/-- An addition adds different resources to the links of the parent, if they are of its kind
and type. -/
theorem differentCount_linksBy_addChildren
    (distinct : architecture.ids.Nodup)
    (addable : Addable architecture parent ids)
    {resource : Resource}
    (known : ∀ id ∈ resource.linksBy attached, id ∈ architecture.ids) :
    differentCount (addChildren architecture rule parent ids) typeName
        ((relink rule parent ids resource).linksBy attached) =
      differentCount architecture typeName (resource.linksBy attached) +
        if resource.id = parent ∧ rule.isAttached = attached ∧ rule.childType = typeName
          then ids.length else 0 := by
  rw [differentCount, (addChildren_perm distinct).countP_eq, extended, List.countP_append,
    List.countP_map, List.countP_map]
  congr 1
  · -- Old resources have no new ids.
    apply List.countP_congr
    intro old oldMember
    have notNew : old.id ∉ ids := fun isNew => addable.fresh _ isNew (id_mem_ids oldMember)
    have sameType := (growsTo_relink rule parent ids old).typeName
    have linkedIff : old.id ∈ (relink rule parent ids resource).linksBy attached ↔
        old.id ∈ resource.linksBy attached := by
      rw [linksBy_relink]
      split_ifs <;> simp [notNew]
    simp only [Function.comp_apply, decide_eq_true_eq, id_relink, sameType, linkedIff]
  · -- New resources are linked to by what has been added.
    apply countP_eq_ite
    intro new isNew
    have notOld : new ∉ resource.linksBy attached :=
      fun linked => addable.fresh new isNew (known new linked)
    have linkedIff : new ∈ (relink rule parent ids resource).linksBy attached ↔
        resource.id = parent ∧ rule.isAttached = attached := by
      rw [linksBy_relink]
      split_ifs with isOwn <;> simp [isOwn, isNew, notOld]
    rw [Function.comp_apply, decide_eq_true_eq, ← and_assoc, ← linkedIff, and_comm]
    rfl

/-- Applying rules adds as many different resources to the links of a resource as links. -/
theorem differentCount_applyRules
    (expansion : Expansion)
    (wellLinked : expansion.architecture.WellLinked)
    (catalog : Catalog)
    (due : List (String × HiddenRule))
    {resource : Resource}
    (found : expansion.architecture.resource? parent = some resource)
    (typeName : String)
    (attached : Bool) :
    ∃ grown, (applyRules catalog expansion due).architecture.resource? parent = some grown ∧
      typedCount (applyRules catalog expansion due).architecture typeName
          (grown.linksBy attached) +
        differentCount expansion.architecture typeName (resource.linksBy attached) =
      typedCount expansion.architecture typeName (resource.linksBy attached) +
        differentCount (applyRules catalog expansion due).architecture typeName
          (grown.linksBy attached) := by
  have all := applyRules_induction
    (fun current => current.WellLinked ∧ ∃ grown, current.resource? parent = some grown ∧
      typedCount current typeName (grown.linksBy attached) +
        differentCount expansion.architecture typeName (resource.linksBy attached) =
      typedCount expansion.architecture typeName (resource.linksBy attached) +
        differentCount current typeName (grown.linksBy attached))
    catalog due ?_ ⟨wellLinked, resource, found, rfl⟩
  · exact all.2
  rintro current rule owner ids ⟨wellLinked, grown, grownFound, same⟩ _ missing
  have addable := addable_of_missingIds missing
  have known := wellLinked.closed.known_linksBy (List.mem_of_find?_eq_some grownFound) attached
  refine ⟨wellLinked.addChildren rule addable, relink rule owner ids grown,
    resource?_addChildren_of_found rule addable grownFound, ?_⟩
  rw [typedCount_linksBy_addChildren addable known,
    differentCount_linksBy_addChildren wellLinked.distinct addable known]
  omega

/-! ## What is drawn -/

section OfGraph

variable {graph : Graph} {provider : Provider} {region : String}

theorem mem_drawnOfType_iff
    (apart : graph.ids.Nodup)
    {target id : String} :
    target ∈ graph.drawnOfType typeName attached id ↔
      ∃ node ∈ graph.nodes,
        (node.typeName = typeName ∧ node.id ∈ graph.drawnLinks attached id) ∧ node.id = target := by
  rw [Graph.drawnOfType, List.mem_filter, beq_iff_eq, Option.map_eq_some_iff]
  constructor
  · rintro ⟨linked, node, found, isType⟩
    obtain ⟨member, rfl⟩ := (find?_name_eq_some_iff apart).1 found
    exact ⟨node, member, ⟨isType, linked⟩, rfl⟩
  · rintro ⟨node, member, ⟨isType, linked⟩, rfl⟩
    exact ⟨linked, node, (find?_name_eq_some_iff apart).2 ⟨member, rfl⟩, isType⟩

/-- Drawn links lead to as many different resources as are left when repetitions are erased. -/
theorem differentCount_drawn
    (apart : graph.ids.Nodup)
    (node : Node) :
    differentCount (drawn graph provider region) typeName ((ofNode graph node).linksBy attached) =
      (graph.drawnOfType typeName attached node.id).dedup.length := by
  have different : ((graph.nodes.filter fun other => other.typeName = typeName ∧
      other.id ∈ graph.drawnLinks attached node.id).map (·.id)).Nodup :=
    apart.sublist (List.filter_sublist.map _)
  have sameIds : ((graph.nodes.filter fun other => other.typeName = typeName ∧
      other.id ∈ graph.drawnLinks attached node.id).map (·.id)).Perm
        (graph.drawnOfType typeName attached node.id).dedup := by
    rw [List.perm_ext_iff_of_nodup different (List.nodup_dedup _)]
    intro id
    simp only [List.mem_dedup, mem_drawnOfType_iff apart, List.mem_map, List.mem_filter,
      decide_eq_true_eq, and_assoc]
  rw [← sameIds.length_eq, List.length_map, ← List.countP_eq_length_filter, differentCount,
    linksBy_ofNode, drawn, List.countP_map]
  rfl

/-- Nothing is contained twice. -/
theorem nodup_drawnOfType_attached
    (apart : graph.ids.Nodup)
    (typeName id : String) :
    (graph.drawnOfType typeName true id).Nodup :=
  (graph.nodup_map_id_children apart id).filter _

/-- The different resources that a drawn one ends up linked to are those that are drawn, and
what is added where links are short. -/
theorem differentCount_of_ofGraph
    (forest : graph.IsForest)
    (made : ofGraph catalog graph provider region = .ok architecture)
    {node : Node}
    (nodeMember : node ∈ graph.nodes)
    {resource : Resource}
    (found : architecture.resource? node.id = some resource)
    (typeName : String)
    (attached : Bool) :
    differentCount architecture typeName (resource.linksBy attached) =
      (graph.drawnOfType typeName attached node.id).dedup.length +
        (greatest (demands catalog provider node typeName attached) -
          (graph.drawnOfType typeName attached node.id).length) := by
  have links := typedCount_of_ofGraph forest made nodeMember found typeName attached
  obtain ⟨_, _, rfl⟩ := ofGraph_eq_ok_iff.1 made
  obtain ⟨grown, grownFound, same⟩ := differentCount_applyRules
    { architecture := drawn graph provider region } (wellLinked_drawn forest) catalog
    (dueRules catalog (drawn graph provider region))
    (resource?_drawn_of_mem forest.apart nodeMember) typeName attached
  obtain rfl : grown = resource := Option.some.inj (grownFound.symm.trans found)
  rw [typedCount_drawn, differentCount_drawn forest.apart] at same
  rw [expand] at links ⊢
  omega

/-- Drawn and added resources are enough exactly when no link is drawn twice, or when the
different drawn ones are enough already. -/
theorem le_dedup_add_iff
    (quantity : Nat)
    (links : List String) :
    quantity ≤ links.dedup.length + (quantity - links.length) ↔
      links.Nodup ∨ quantity ≤ links.dedup.length := by
  have shorter := (List.dedup_sublist links).length_le
  constructor
  · intro enough
    by_cases longer : quantity ≤ links.dedup.length
    · exact Or.inr longer
    · have same : links.dedup.length = links.length := by omega
      exact Or.inl (List.dedup_eq_self.1 ((List.dedup_sublist links).eq_of_length same))
  · rintro (different | enough)
    · rw [different.dedup]
      omega
    · omega

/-- A rule that is applied to a node says how many resources it wants. -/
theorem exists_count_of_ofGraph
    (forest : graph.IsForest)
    (made : ofGraph catalog graph provider region = .ok architecture)
    {node : Node}
    (nodeMember : node ∈ graph.nodes)
    (filed : (node.typeName, rule) ∈ catalog.rules)
    (covers : Provider.covers rule.provider provider = true)
    (applies : rule.appliesTo node.metadata = .ok true) :
    ∃ quantity, rule.count node.metadata = .ok quantity := by
  obtain ⟨resource, member, sameId, wanted, wants, _⟩ :=
    provides_of_ofGraph made nodeMember filed covers
  rw [(growth_of_id_eq forest made nodeMember member sameId).config, ofNode, wantedCount,
    applies] at wants
  cases counted : rule.count node.metadata with
  | error error => simp [counted] at wants
  | ok quantity => exact ⟨quantity, rfl⟩

/-- A drawn resource ends up linked to the different resources that are drawn, and to one more
for each link that is short.  Those are as many as every rule asks for exactly when the
dependencies on resources of a type lead to different ones, or the different ones are enough. -/
theorem rules_are_met_iff
    {diagram : Diagram}
    (resolved : diagram.toGraph = .ok graph)
    (made : ofGraph catalog graph provider region = .ok architecture)
    {node : Node}
    (nodeMember : node ∈ graph.nodes) :
    ∃ resource, architecture.resource? node.id = some resource ∧
      (∀ typeName attached, differentCount architecture typeName (resource.linksBy attached) =
        (graph.drawnOfType typeName attached node.id).dedup.length +
          (greatest (demands catalog provider node typeName attached) -
            (graph.drawnOfType typeName attached node.id).length)) ∧
      ((∀ rule ∈ catalog.hiddenRules node.typeName,
          Provider.covers rule.provider provider = true →
          rule.appliesTo node.metadata = .ok true →
          ∃ quantity, rule.count node.metadata = .ok quantity ∧
            quantity ≤ differentCount architecture rule.childType
              (resource.linksBy rule.isAttached)) ↔
        ∀ typeName, (graph.drawnOfType typeName false node.id).Nodup ∨
          greatest (demands catalog provider node typeName false) ≤
            (graph.drawnOfType typeName false node.id).dedup.length) := by
  have forest := Diagram.isForest_of_toGraph resolved
  have distinct := (wellLinked_of_ofGraph forest made).distinct
  obtain ⟨resource, member, growth⟩ :=
    grows_of_ofGraph forest made _ (List.mem_map_of_mem nodeMember)
  have found : architecture.resource? node.id = some resource :=
    (find?_name_eq_some_iff distinct).2 ⟨member, growth.id⟩
  have different := differentCount_of_ofGraph forest made nodeMember found
  refine ⟨resource, found, different, ?_, ?_⟩
  · intro met typeName
    rw [← le_dedup_add_iff, ← different, greatest_le_iff]
    intro quantity asked
    obtain ⟨rule, isRule, covers, rfl, isKind, demanded⟩ := mem_demands_iff.1 asked
    obtain ⟨applies, counted⟩ := HiddenRule.demand?_eq_some_iff.1 demanded
    obtain ⟨wanted, isWanted, enough⟩ := met rule isRule covers applies
    obtain rfl := Except.ok.inj (counted.symm.trans isWanted)
    exact isKind ▸ enough
  · intro enough rule isRule covers applies
    have filed := Catalog.mem_hiddenRules_iff.1 isRule
    obtain ⟨quantity, counted⟩ :=
      exists_count_of_ofGraph forest made nodeMember filed covers applies
    have asked : quantity ∈ demands catalog provider node rule.childType rule.isAttached :=
      mem_demands_iff.2 ⟨rule, isRule, covers, rfl, rfl,
        HiddenRule.demand?_eq_some_iff.2 ⟨applies, counted⟩⟩
    refine ⟨quantity, counted, (le_greatest_of_mem asked).trans ?_⟩
    rw [different, le_dedup_add_iff]
    cases rule.isAttached with
    | true => exact Or.inl (nodup_drawnOfType_attached forest.apart _ _)
    | false => exact enough _

end OfGraph

/-- A server that depends on a disk twice. -/
def doublyLinked : Diagram where
  nodes := [{ id := "web", typeName := "Server" }, { id := "disk", typeName := "Disk" }]
  edges := [
    { id := "first", source := "web", target := "disk" },
    { id := "second", source := "web", target := "disk" }]

/-- Both dependencies are kept, as plain ones. -/
def doublyLinkedGraph : Graph where
  nodes := doublyLinked.nodes
  containment := []
  dependency := doublyLinked.edges.map fun edge =>
    { edge with dependencyType := some .dependsOn }

theorem toGraph_doublyLinked : doublyLinked.toGraph = .ok doublyLinkedGraph := rfl

/-- One disk is enough where one is asked for. -/
theorem rules_are_met_with_one_disk :
    ∃ made web resource, doublyLinked.toGraph = .ok doublyLinkedGraph ∧
      ofGraph (serversWithDisks .aws) doublyLinkedGraph .aws "" = .ok made ∧
      web ∈ doublyLinkedGraph.nodes ∧ made.resource? web.id = some resource ∧
      ¬ (doublyLinkedGraph.drawnOfType "Disk" false web.id).Nodup ∧
      ∀ rule ∈ (serversWithDisks .aws).hiddenRules web.typeName,
        Provider.covers rule.provider .aws = true → rule.appliesTo web.metadata = .ok true →
        ∃ quantity, rule.count web.metadata = .ok quantity ∧
          quantity ≤ differentCount made rule.childType (resource.linksBy rule.isAttached) := by
  obtain ⟨made, isMade⟩ : ∃ made,
      ofGraph (serversWithDisks .aws) doublyLinkedGraph .aws "" = .ok made := ⟨_, rfl⟩
  obtain ⟨resource, found, _, met⟩ :=
    rules_are_met_iff toGraph_doublyLinked isMade List.mem_cons_self
  refine ⟨made, _, resource, toGraph_doublyLinked, isMade, List.mem_cons_self, found, by decide,
    met.2 ?_⟩
  intro typeName
  refine Or.inr (greatest_le_iff.2 fun quantity asked => ?_)
  obtain ⟨rule, isRule, _, rfl, _, demanded⟩ := mem_demands_iff.1 asked
  obtain rfl := List.mem_singleton.1 isRule
  obtain rfl : 1 = quantity := Option.some.inj demanded
  decide

/-- Servers depend on two disks. -/
def twoDisks : HiddenRule where
  parentType := "Server"
  childType := "Disk"
  quantity := "2"

theorem count_twoDisks (metadata : Metadata) : twoDisks.count metadata = .ok 2 := by
  have trimmed : Text.trim "2" = "2" := by decide +kernel
  have digits : Expression.IsDigits "2".toList := ⟨by simp, by simp⟩
  simp only [HiddenRule.count, twoDisks, trimmed, Expression.parse_of_isDigits digits]
  rfl

/-- The types of servers and disks, with the rule for two disks. -/
def serversWithTwoDisks : Catalog :=
  { serversWithDisks .aws with rules := [("Server", twoDisks)] }

/-- Two links to one disk pass for two disks. -/
theorem rules_are_not_met_with_one_disk :
    ∃ made, doublyLinked.toGraph = .ok doublyLinkedGraph ∧
      ofGraph serversWithTwoDisks doublyLinkedGraph .aws "" = .ok made ∧
      ∃ web ∈ doublyLinkedGraph.nodes, ∃ resource, made.resource? web.id = some resource ∧
        ∃ rule ∈ serversWithTwoDisks.hiddenRules web.typeName,
          Provider.covers rule.provider .aws = true ∧ rule.appliesTo web.metadata = .ok true ∧
          rule.count web.metadata = .ok 2 ∧
          differentCount made rule.childType (resource.linksBy rule.isAttached) = 1 := by
  have nothing : ∀ next ∈ dueRules serversWithTwoDisks (drawn doublyLinkedGraph .aws ""),
      missingIds serversWithTwoDisks (drawn doublyLinkedGraph .aws "") next.2 next.1 =
        .ok [] := by
    intro next isDue
    obtain rfl := List.mem_singleton.1 isDue
    have wanted : wantedCount serversWithTwoDisks twoDisks [] = .ok (some 2) :=
      wantedCount_eq_some_iff.2 ⟨rfl, count_twoDisks _, _, rfl⟩
    exact missingIds_eq_nil_iff.2 ⟨_, rfl, some 2, wanted, Nat.le_refl 2⟩
  have expanded := applyRules_of_nothing_missing nothing 0
  have isMade : ofGraph serversWithTwoDisks doublyLinkedGraph .aws "" =
      .ok (drawn doublyLinkedGraph .aws "") := by
    refine ofGraph_eq_ok_iff.2 ⟨rfl, ?_, ?_⟩
    · exact congrArg Expansion.failure expanded
    · exact congrArg Expansion.architecture expanded
  exact ⟨_, toGraph_doublyLinked, isMade, _, List.mem_cons_self, _, rfl, twoDisks,
    List.mem_singleton_self _, rfl, rfl, count_twoDisks _, rfl⟩

end CloudPlan.Architecture
