import CloudPlan.Proofs.Architecture.Idempotence
import CloudPlan.Proofs.Architecture.Shortfall
import CloudPlan.Proofs.Catalog.Aws

/-!
# What metadata make a difference

An expansion looks at metadata through its rules alone, and these look at them through their
keys.  So two architectures that differ in nothing but metadata, and in which the due rules want
the same, stay such while the rules are applied to both.
-/

namespace CloudPlan

/-! ## Bare graphs and architectures -/

/-- The node without its metadata. -/
def Node.bare (node : Node) : Node :=
  { node with metadata := [] }

/-- The graph without the metadata of its nodes. -/
def Graph.bare (graph : Graph) : Graph :=
  { graph with nodes := graph.nodes.map (·.bare) }

/-- The resource without its metadata. -/
def Resource.bare (resource : Resource) : Resource :=
  { resource with config := [] }

namespace Architecture

variable {architecture left right newLeft newRight : Architecture} {catalog : Catalog}
  {rule : HiddenRule} {parent : String} {ids : List String} {due : List (String × HiddenRule)}

/-- The architecture without the metadata of its resources and of the graph it was made from. -/
def bare (architecture : Architecture) : Architecture :=
  { architecture with
    resources := architecture.resources.map (·.bare)
    graph := architecture.graph.map (·.bare) }

@[simp] theorem ids_bare : architecture.bare.ids = architecture.ids := by
  rw [Architecture.ids, bare, List.map_map]
  rfl

theorem resource?_bare (id : String) :
    architecture.bare.resource? id = (architecture.resource? id).map (·.bare) := by
  rw [resource?, bare, List.find?_map]
  rfl

theorem linkedCount_bare (rule : HiddenRule) (resource : Resource) :
    linkedCount architecture.bare rule resource.bare =
      linkedCount architecture rule resource := by
  have sameType (id : String) : (architecture.bare.resource? id).map (·.typeName) =
      (architecture.resource? id).map (·.typeName) := by
    rw [resource?_bare, Option.map_map]
    rfl
  simp only [linkedCount, sameType]
  rfl

/-! ## Additions -/

theorem bare_linkTo (resource : Resource) :
    (linkTo rule ids resource).bare = linkTo rule ids resource.bare := by
  unfold linkTo
  split_ifs <;> rfl

theorem map_bare_modifyFirst_linkTo (resources : List Resource) :
    (modifyFirst parent (linkTo rule ids) resources).map (·.bare) =
      modifyFirst parent (linkTo rule ids) (resources.map (·.bare)) := by
  induction resources with
  | nil => rfl
  | cons resource rest inductionHypothesis =>
      rw [modifyFirst, List.map_cons, modifyFirst, show resource.bare.id = resource.id from rfl]
      split_ifs
      · rw [List.map_cons, bare_linkTo]
      · rw [List.map_cons, inductionHypothesis]

theorem map_bare_insertAfter (added resources : List Resource) :
    (insertAfter parent added resources).map (·.bare) =
      insertAfter parent (added.map (·.bare)) (resources.map (·.bare)) := by
  induction resources with
  | nil => rfl
  | cons resource rest inductionHypothesis =>
      rw [insertAfter, List.map_cons, insertAfter, show resource.bare.id = resource.id from rfl]
      split_ifs
      · rw [List.takeWhile_map, List.dropWhile_map]
        simp only [List.map_append, List.map_cons]
        rfl
      · rw [List.map_cons, inductionHypothesis]

/-- What is added does not depend on metadata. -/
theorem bare_addChildren :
    (addChildren architecture rule parent ids).bare =
      addChildren architecture.bare rule parent ids := by
  rw [addChildren, addChildren, bare, bare]
  simp only [map_bare_insertAfter, map_bare_modifyFirst_linkTo, List.map_map]
  rfl

theorem dueRules_bare : dueRules catalog architecture.bare = dueRules catalog architecture := by
  rw [dueRules_eq_flatten, dueRules_eq_flatten, bare, List.map_map]
  rfl

/-! ## Two expansions -/

/-- Each of these rules finds a resource in both architectures and wants the same for it. -/
def WantAlike (catalog : Catalog) (due : List (String × HiddenRule))
    (left right : Architecture) : Prop :=
  ∀ next ∈ due, ∃ resource twin,
    left.resource? next.1 = some resource ∧ right.resource? next.1 = some twin ∧
    wantedCount catalog next.2 resource.config = wantedCount catalog next.2 twin.config

/-- Resources that grow are wanted the same for as before. -/
theorem WantAlike.of_retains
    (alike : WantAlike catalog due left right)
    (leftRetains : left.Retains newLeft)
    (rightRetains : right.Retains newRight) :
    WantAlike catalog due newLeft newRight := by
  intro next isDue
  obtain ⟨resource, twin, found, twinFound, same⟩ := alike next isDue
  obtain ⟨grown, grownFound, growth⟩ := leftRetains _ _ found
  obtain ⟨grownTwin, grownTwinFound, twinGrowth⟩ := rightRetains _ _ twinFound
  refine ⟨grown, grownTwin, grownFound, grownTwinFound, ?_⟩
  rw [growth.config, twinGrowth.config, same]

/-- A rule that wants the same misses the same. -/
theorem missingIds_eq_of_wantAlike
    (sameBare : left.bare = right.bare)
    (alike : WantAlike catalog due left right)
    (isDue : (parent, rule) ∈ due) :
    missingIds catalog left rule parent = missingIds catalog right rule parent := by
  obtain ⟨resource, twin, found, twinFound, same⟩ := alike _ isDue
  have sameIds : left.ids = right.ids := by
    rw [← ids_bare, sameBare, ids_bare]
  have sameResource : resource.bare = twin.bare := by
    have bareFound : left.bare.resource? parent = _ := resource?_bare parent
    rw [sameBare, resource?_bare, found, twinFound] at bareFound
    exact (Option.some.inj bareFound).symm
  have sameLinks : linkedCount left rule resource = linkedCount right rule twin := by
    rw [← linkedCount_bare, sameBare, sameResource, linkedCount_bare]
  rw [missingIds, missingIds, found, twinFound]
  simp only [same, sameIds, sameLinks]

/-- The expansion without metadata. -/
def Expansion.bare (expansion : Expansion) : Expansion :=
  { expansion with architecture := expansion.architecture.bare }

/-- Rules that want the same do the same. -/
theorem bare_applyRules_of_wantAlike
    (sameBare : left.bare = right.bare)
    (alike : WantAlike catalog due left right)
    (added : Nat) :
    (applyRules catalog { architecture := left, added } due).bare =
      (applyRules catalog { architecture := right, added } due).bare := by
  induction due generalizing left right added with
  | nil =>
      rw [applyRules, applyRules, Expansion.bare, Expansion.bare, sameBare]
  | cons next rest inductionHypothesis =>
      obtain ⟨parent, rule⟩ := next
      have sameMissing := missingIds_eq_of_wantAlike sameBare alike List.mem_cons_self
      rw [applyRules, applyRules, sameMissing]
      cases missing : missingIds catalog right rule parent with
      | error error =>
          simp only [Expansion.bare, sameBare]
      | ok ids =>
          have leftAddable := addable_of_missingIds (sameMissing.trans missing)
          have rightAddable := addable_of_missingIds missing
          refine inductionHypothesis ?_ ?_ (added + ids.length)
          · rw [bare_addChildren, bare_addChildren, sameBare]
          · have restAlike : WantAlike catalog rest left right :=
              fun next isDue => alike next (List.mem_cons_of_mem _ isDue)
            exact restAlike.of_retains (retains_addChildren rule leftAddable)
              (retains_addChildren rule rightAddable)

/-! ## Graphs -/

section OfGraph

variable {graph other : Graph} {provider : Provider} {region : String}

theorem ids_graph_bare : graph.bare.ids = graph.ids := by
  rw [Graph.ids, Graph.bare, List.map_map]
  rfl

theorem bare_drawn :
    (drawn graph provider region).bare = drawn graph.bare provider region := by
  have sameResource (node : Node) : (ofNode graph node).bare = ofNode graph.bare node.bare := by
    have sameChildren : (graph.bare.children node.id).map (·.id) =
        (graph.children node.id).map (·.id) := by
      rw [Graph.map_id_children, Graph.map_id_children, Graph.bare, List.filter_map, List.map_map]
      rfl
    simp only [ofNode, Resource.bare, Node.bare, sameChildren]
    rfl
  have sameResources : (graph.nodes.map (ofNode graph)).map (·.bare) =
      graph.bare.nodes.map (ofNode graph.bare) := by
    rw [List.map_map, Graph.bare, List.map_map]
    exact List.map_congr_left fun node _ => sameResource node
  rw [drawn, drawn, bare]
  simp only [sameResources]
  rfl

theorem checkTypes_bare (nodes : List Node) :
    checkTypes catalog provider (nodes.map (·.bare)) = checkTypes catalog provider nodes := by
  induction nodes with
  | nil => rfl
  | cons node rest inductionHypothesis =>
      rw [List.map_cons, checkTypes, inductionHypothesis, checkTypes]
      rfl

theorem wantedCount_congr
    {metadata other : Metadata}
    (agree : ∀ key ∈ rule.keys, metadata.lookup key = other.lookup key) :
    wantedCount catalog rule metadata = wantedCount catalog rule other := by
  rw [wantedCount, wantedCount, HiddenRule.appliesTo_congr agree, HiddenRule.count_congr agree]

/-- Rules want the same for nodes whose metadata agree on what the rules of their types look up. -/
theorem wantAlike_drawn
    (apart : graph.ids.Nodup)
    (sameBare : graph.bare = other.bare)
    (agree : ∀ node ∈ graph.nodes, ∀ twin ∈ other.nodes, twin.id = node.id →
      ∀ rule ∈ catalog.hiddenRules node.typeName, ∀ key ∈ rule.keys,
        node.metadata.lookup key = twin.metadata.lookup key) :
    WantAlike catalog (dueRules catalog (drawn graph provider region))
      (drawn graph provider region) (drawn other provider region) := by
  have sameIds : graph.ids = other.ids := by
    rw [← ids_graph_bare, sameBare, ids_graph_bare]
  rintro ⟨parent, rule⟩ isDue
  obtain ⟨node, member, rfl, filed, _⟩ := mem_dueRules_drawn_iff.1 isDue
  have bareMember : node.bare ∈ other.bare.nodes :=
    sameBare ▸ List.mem_map_of_mem (f := Node.bare) member
  obtain ⟨twin, twinMember, sameNode⟩ := List.mem_map.1 bareMember
  have sameId : twin.id = node.id := by
    injection sameNode
  refine ⟨ofNode graph node, ofNode other twin, resource?_drawn_of_mem apart member, ?_, ?_⟩
  · rw [← sameId]
    exact resource?_drawn_of_mem (sameIds ▸ apart) twinMember
  · exact wantedCount_congr
      (agree node member twin twinMember sameId rule (Catalog.mem_hiddenRules_iff.2 filed))

/-- What is synthesized depends on no metadata but what the rules look up.  Of two graphs that
agree on that, either none has an architecture, and for the same reason, or their architectures
are the same but for metadata. -/
theorem synthesis_depends_on_keys
    {diagram : Diagram}
    (resolved : diagram.toGraph = .ok graph)
    (sameBare : graph.bare = other.bare)
    (agree : ∀ node ∈ graph.nodes, ∀ twin ∈ other.nodes, twin.id = node.id →
      ∀ rule ∈ catalog.hiddenRules node.typeName, ∀ key ∈ rule.keys,
        node.metadata.lookup key = twin.metadata.lookup key)
    (provider : Provider)
    (region : String) :
    (ofGraph catalog graph provider region).map bare =
      (ofGraph catalog other provider region).map bare := by
  have apart := (Diagram.isForest_of_toGraph resolved).apart
  have sameTypes : checkTypes catalog provider graph.nodes =
      checkTypes catalog provider other.nodes := by
    rw [← checkTypes_bare, ← checkTypes_bare other.nodes]
    exact congrArg (checkTypes catalog provider ·.nodes) sameBare
  have sameDrawn : (drawn graph provider region).bare = (drawn other provider region).bare := by
    rw [bare_drawn, bare_drawn, sameBare]
  have sameDue : dueRules catalog (drawn graph provider region) =
      dueRules catalog (drawn other provider region) := by
    rw [← dueRules_bare, sameDrawn, dueRules_bare]
  have sameExpansion : (expand catalog (drawn graph provider region)).bare =
      (expand catalog (drawn other provider region)).bare := by
    rw [expand, expand, ← sameDue]
    exact bare_applyRules_of_wantAlike sameDrawn (wantAlike_drawn apart sameBare agree) 0
  obtain ⟨sameArchitecture, _, sameFailure⟩ := Expansion.mk.inj sameExpansion
  rw [ofGraph, ofGraph, sameTypes]
  cases checkTypes catalog provider other.nodes with
  | error error => rfl
  | ok _ =>
      simp only [sameFailure]
      cases (expand catalog (drawn other provider region)).failure with
      | some error => rfl
      | none => exact congrArg Except.ok sameArchitecture

end OfGraph

/-- A function with metadata. -/
def functionWith (metadata : Metadata) : Diagram where
  nodes := [{ id := "fn", typeName := "Lambda", metadata }]

/-- A function without metadata gets a role. -/
theorem expand_function :
    ∃ made, expand .builtIn (drawn (functionWith []).resolvedGraph .aws "") =
        { architecture := made, added := 1 } ∧
      made.ids = ["fn", "fn-iamrole-1"] := by
  have wants : wantedCount .builtIn Catalog.Aws.lambdaRule [] = .ok (some 1) :=
    wantedCount_eq_some_iff.2 ⟨(Catalog.Aws.appliesTo_lambdaRule_iff []).2 (by simp),
      Catalog.Aws.count_lambdaRule [], _, rfl⟩
  have missing : missingIds .builtIn (drawn (functionWith []).resolvedGraph .aws "")
      Catalog.Aws.lambdaRule "fn" = .ok ["fn-iamrole-1"] :=
    missingIds_eq_ok_iff.2 ⟨_, rfl, _, wants, rfl⟩
  have due : dueRules .builtIn (drawn (functionWith []).resolvedGraph .aws "") =
      [("fn", Catalog.Aws.lambdaRule)] := rfl
  rw [expand, due, applyRules, missing]
  exact ⟨_, rfl, rfl⟩

/-- It gets one as well when its metadata name a handler, which the rule does not look at. -/
theorem synthesis_depends_on_keys_of_function :
    ∃ graph other made otherMade, (functionWith []).toGraph = .ok graph ∧
      (functionWith [("handler", .text "main")]).toGraph = .ok other ∧
      ofGraph .builtIn graph .aws "" = .ok made ∧ made.ids = ["fn", "fn-iamrole-1"] ∧
      ofGraph .builtIn other .aws "" = .ok otherMade ∧ otherMade.bare = made.bare := by
  obtain ⟨made, expanded, ids⟩ := expand_function
  have isMade : ofGraph .builtIn (functionWith []).resolvedGraph .aws "" = .ok made :=
    ofGraph_eq_ok_iff.2 ⟨rfl, congrArg _ expanded, congrArg _ expanded⟩
  have resolved : (functionWith []).toGraph = .ok (functionWith []).resolvedGraph := rfl
  have agree : ∀ node ∈ (functionWith []).resolvedGraph.nodes,
      ∀ twin ∈ (functionWith [("handler", .text "main")]).resolvedGraph.nodes, twin.id = node.id →
      ∀ rule ∈ Catalog.builtIn.hiddenRules node.typeName, ∀ key ∈ rule.keys,
        node.metadata.lookup key = twin.metadata.lookup key := by
    intro node member twin twinMember _ rule isRule key isKey
    obtain rfl := List.mem_singleton.1 member
    obtain rfl := List.mem_singleton.1 twinMember
    obtain rfl : rule = Catalog.Aws.lambdaRule := List.mem_singleton.1 isRule
    rw [Catalog.Aws.keys_lambdaRule] at isKey
    obtain rfl := List.mem_singleton.1 isKey
    rfl
  have sameGraph : (functionWith []).resolvedGraph.bare =
      (functionWith [("handler", .text "main")]).resolvedGraph.bare := rfl
  have same := synthesis_depends_on_keys resolved sameGraph agree .aws ""
  rw [isMade] at same
  obtain ⟨otherMade, isOtherMade, sameBare⟩ := map_eq_ok_iff.1 same.symm
  exact ⟨_, _, made, otherMade, resolved, rfl, isMade, ids, isOtherMade, sameBare⟩

end Architecture

end CloudPlan
