import CloudPlan.Proofs.Architecture.Belonging

/-!
# What an expansion adds to what is drawn

Whatever the rules before it have added, a rule tops up the links of its kind to the number
that it wants.  So in the end a drawn resource has as many links to resources of a type as are
drawn, or as the most demanding rule wants if that is more.  The ids for what is added are
found among those that numbers give, however many of them are taken.
-/

namespace CloudPlan

/-! ## Quantities -/

/-- How many resources a rule asks for, if it applies. -/
def HiddenRule.demand? (rule : HiddenRule) (metadata : Metadata) : Option Nat :=
  match rule.appliesTo metadata with
  | .ok true => (rule.count metadata).toOption
  | _ => none

theorem HiddenRule.demand?_eq_some_iff
    {rule : HiddenRule}
    {metadata : Metadata}
    {quantity : Nat} :
    rule.demand? metadata = some quantity ↔
      rule.appliesTo metadata = .ok true ∧ rule.count metadata = .ok quantity := by
  rw [demand?]
  split
  next applies => simp [applies, toOption_eq_some_iff]
  next notApplied => exact iff_of_false (by simp) fun applies => notApplied applies.1

/-- The greatest of some quantities, and zero if there is none. -/
def greatest (quantities : List Nat) : Nat :=
  quantities.max?.getD 0

@[simp] theorem greatest_nil : greatest [] = 0 := rfl

@[simp] theorem greatest_cons (first : Nat) (rest : List Nat) :
    greatest (first :: rest) = max first (greatest rest) := by
  cases rest <;> simp [greatest, List.max?_cons]

theorem greatest_le_iff {quantities : List Nat} {bound : Nat} :
    greatest quantities ≤ bound ↔ ∀ quantity ∈ quantities, quantity ≤ bound := by
  induction quantities with
  | nil => simp
  | cons first rest inductionHypothesis =>
      rw [greatest_cons, Nat.max_le, inductionHypothesis, List.forall_mem_cons]

theorem le_greatest_of_mem
    {quantities : List Nat}
    {quantity : Nat}
    (member : quantity ∈ quantities) :
    quantity ≤ greatest quantities :=
  greatest_le_iff.1 (Nat.le_refl _) quantity member

/-- The greatest quantity does not depend on the order of the quantities or on repetitions. -/
theorem greatest_congr
    {quantities others : List Nat}
    (same : ∀ quantity, quantity ∈ quantities ↔ quantity ∈ others) :
    greatest quantities = greatest others := by
  apply Nat.le_antisymm
  · exact greatest_le_iff.2 fun quantity member => le_greatest_of_mem ((same quantity).1 member)
  · exact greatest_le_iff.2 fun quantity member => le_greatest_of_mem ((same quantity).2 member)

namespace Graph

/-- What a node contains, or else what it depends on, edge by edge. -/
def drawnLinks (graph : Graph) (attached : Bool) (id : String) : List String :=
  if attached then (graph.children id).map (·.id) else (graph.dependencies id).map (·.target)

/-- The drawn links of a node that lead to nodes of a type. -/
def drawnOfType (graph : Graph) (typeName : String) (attached : Bool) (id : String) :
    List String :=
  (graph.drawnLinks attached id).filter fun target =>
    ((graph.node? target).map (·.typeName)) == some typeName

end Graph

namespace Architecture

variable {architecture : Architecture} {catalog : Catalog} {rule : HiddenRule}
  {parent typeName : String} {attached : Bool} {ids : List String}

/-- The quantities that the rules for a node ask for, of a type and with links of one kind. -/
def demands (catalog : Catalog) (provider : Provider) (node : Node) (typeName : String)
    (attached : Bool) : List Nat :=
  ((catalog.hiddenRules node.typeName).filter fun rule =>
    Provider.covers rule.provider provider ∧ rule.childType = typeName ∧
      rule.isAttached = attached).filterMap (·.demand? node.metadata)

theorem mem_demands_iff
    {provider : Provider}
    {node : Node}
    {quantity : Nat} :
    quantity ∈ demands catalog provider node typeName attached ↔
      ∃ rule ∈ catalog.hiddenRules node.typeName, Provider.covers rule.provider provider = true ∧
        rule.childType = typeName ∧ rule.isAttached = attached ∧
        rule.demand? node.metadata = some quantity := by
  simp only [demands, List.mem_filterMap, List.mem_filter, decide_eq_true_eq, and_assoc]

/-! ## Free ids -/

/-- Numbers are gone through from a given one on.  Ids that are taken are passed over, and the
others are used, until there are as many as are wanted. -/
inductive FindsFree (parent slug : String) : List String → Nat → Nat → List String → Prop
  /-- No more ids are wanted. -/
  | done {taken : List String} {number : Nat} : FindsFree parent slug taken number 0 []
  /-- The id of the number is taken. -/
  | passes {taken found : List String} {number wanted : Nat} :
      childId parent slug number ∈ taken →
      FindsFree parent slug taken (number + 1) (wanted + 1) found →
      FindsFree parent slug taken number (wanted + 1) found
  /-- The id of the number is free, and is taken from then on. -/
  | uses {taken found : List String} {number wanted : Nat} :
      childId parent slug number ∉ taken →
      FindsFree parent slug (childId parent slug number :: taken) (number + 1) wanted found →
      FindsFree parent slug taken number (wanted + 1) (childId parent slug number :: found)

/-- The ids of so many numbers from a given one on. -/
def candidates (parent slug : String) (number count : Nat) : List String :=
  (List.range' number count).map (childId parent slug)

theorem freshIds_eq_take (taken : List String) (parent slug : String) (wanted : Nat) :
    freshIds taken parent slug wanted =
      ((candidates parent slug 1 (taken.length + wanted)).filter (· ∉ taken)).take wanted := by
  rw [candidates, List.range'_eq_map_range, List.map_map, freshIds]
  simp only [Function.comp_def, Nat.add_comm 1]

/-- Where enough candidates are free, the search ends with the first ones of them. -/
theorem findsFree_of_enough
    {slug : String}
    {taken : List String}
    {number count wanted : Nat}
    (enough : wanted ≤ ((candidates parent slug number count).filter (· ∉ taken)).length) :
    FindsFree parent slug taken number wanted
      (((candidates parent slug number count).filter (· ∉ taken)).take wanted) := by
  induction count generalizing taken number wanted with
  | zero =>
      obtain rfl : wanted = 0 := by simpa [candidates] using enough
      exact .done
  | succ count inductionHypothesis =>
      cases wanted with
      | zero => exact .done
      | succ wanted =>
          have first : candidates parent slug number (count + 1) =
              childId parent slug number :: candidates parent slug (number + 1) count := rfl
          rw [first] at enough ⊢
          by_cases isTaken : childId parent slug number ∈ taken
          · rw [List.filter_cons_of_neg (by simpa using isTaken)] at enough ⊢
            exact .passes isTaken (inductionHypothesis enough)
          · -- No later number gives the id that is used.
            have others : (candidates parent slug (number + 1) count).filter (· ∉ taken) =
                (candidates parent slug (number + 1) count).filter
                  (· ∉ childId parent slug number :: taken) := by
              refine List.filter_congr fun id member => ?_
              obtain ⟨later, isLater, rfl⟩ := List.mem_map.1 member
              have different : childId parent slug later ≠ childId parent slug number := by
                intro same
                have bounds := List.mem_range'_1.1 isLater
                have equal := childId_injective parent slug same
                omega
              simp [different]
            rw [List.filter_cons_of_pos (by simpa using isTaken)] at enough ⊢
            rw [others] at enough ⊢
            exact .uses isTaken (inductionHypothesis (Nat.le_of_succ_le_succ enough))

/-- The search for free ids ends, whichever ids are taken. -/
theorem findsFree_freshIds (taken : List String) (parent slug : String) (wanted : Nat) :
    FindsFree parent slug taken 1 wanted (freshIds taken parent slug wanted) := by
  have length := length_freshIds taken parent slug wanted
  rw [freshIds_eq_take] at length ⊢
  refine findsFree_of_enough ?_
  rw [List.length_take] at length
  omega

theorem exists_number_of_mem_freshIds
    {taken : List String}
    {slug id : String}
    {wanted : Nat}
    (member : id ∈ freshIds taken parent slug wanted) :
    ∃ number, id = childId parent slug (number + 1) := by
  obtain ⟨number, _, rfl⟩ := List.mem_map.1 (List.mem_of_mem_filter (List.mem_of_mem_take member))
  exact ⟨number, rfl⟩

/-! ## Topping up -/

/-- Old links lead to resources of the types that they have led to. -/
theorem typedCount_addChildren_of_known
    (addable : Addable architecture parent ids)
    {links : List String}
    (known : ∀ id ∈ links, id ∈ architecture.ids)
    (typeName : String) :
    typedCount (addChildren architecture rule parent ids) typeName links =
      typedCount architecture typeName links := by
  apply List.countP_congr
  intro id isLink
  have isOld : id ∉ ids := fun isNew => addable.fresh id isNew (known id isLink)
  have sameType (resource : Resource) :
      (relink rule parent ids resource).typeName = resource.typeName :=
    (growsTo_relink rule parent ids resource).typeName
  simp only [resource?_addChildren_of_not_mem isOld, Option.map_map, Function.comp_def, sameType]

/-- An addition adds to the links of the parent, if they are of its kind and type. -/
theorem typedCount_linksBy_addChildren
    (addable : Addable architecture parent ids)
    {resource : Resource}
    (known : ∀ id ∈ resource.linksBy attached, id ∈ architecture.ids) :
    typedCount (addChildren architecture rule parent ids) typeName
        ((relink rule parent ids resource).linksBy attached) =
      typedCount architecture typeName (resource.linksBy attached) +
        if resource.id = parent ∧ rule.isAttached = attached ∧ rule.childType = typeName
          then ids.length else 0 := by
  rw [linksBy_relink, typedCount_append, typedCount_addChildren_of_known addable known]
  by_cases isOwn : resource.id = parent ∧ rule.isAttached = attached
  · simp [isOwn, typedCount_added addable]
  · simp [isOwn, ← and_assoc, typedCount]

theorem Closed.known_linksBy
    (closed : architecture.Closed)
    {resource : Resource}
    (member : resource ∈ architecture.resources)
    (attached : Bool) :
    ∀ id ∈ resource.linksBy attached, id ∈ architecture.ids := by
  cases attached
  · exact closed resource member .dependency
  · exact closed resource member .child

theorem demand?_of_wantedCount
    {config : Metadata}
    {wanted : Option Nat}
    (wants : wantedCount catalog rule config = .ok wanted) :
    rule.demand? config = wanted := by
  cases wanted with
  | none => rw [HiddenRule.demand?, wantedCount_eq_none_iff.1 wants]
  | some count =>
      obtain ⟨applies, counts, _⟩ := wantedCount_eq_some_iff.1 wants
      exact HiddenRule.demand?_eq_some_iff.2 ⟨applies, counts⟩

/-- How many links of a kind to a type a due rule asks for, for a parent with some metadata. -/
def dueDemand (parent typeName : String) (attached : Bool) (config : Metadata)
    (next : String × HiddenRule) : Option Nat :=
  if next.1 = parent ∧ next.2.isAttached = attached ∧ next.2.childType = typeName then
    next.2.demand? config
  else
    none

theorem greatest_dueDemand_cons
    {config : Metadata}
    (next : String × HiddenRule)
    (rest : List (String × HiddenRule)) :
    greatest ((next :: rest).filterMap (dueDemand parent typeName attached config)) =
      max ((dueDemand parent typeName attached config next).getD 0)
        (greatest (rest.filterMap (dueDemand parent typeName attached config))) := by
  cases demanded : dueDemand parent typeName attached config next with
  | none => rw [List.filterMap_cons_none demanded, Option.getD_none, Nat.zero_max]
  | some quantity => rw [List.filterMap_cons_some demanded, greatest_cons, Option.getD_some]

/-- A rule that is applied tops the links of a resource up to what it asks for. -/
theorem typedCount_addition
    {owner : String}
    (closed : architecture.Closed)
    (missing : missingIds catalog architecture rule owner = .ok ids)
    {resource : Resource}
    (found : architecture.resource? parent = some resource) :
    typedCount (addChildren architecture rule owner ids) typeName
        ((relink rule owner ids resource).linksBy attached) =
      max (typedCount architecture typeName (resource.linksBy attached))
        ((dueDemand parent typeName attached resource.config (owner, rule)).getD 0) := by
  have known := closed.known_linksBy (List.mem_of_find?_eq_some found) attached
  have isParent := id_of_resource? found
  rw [typedCount_linksBy_addChildren (addable_of_missingIds missing) known, isParent, dueDemand]
  by_cases adds : owner = parent ∧ rule.isAttached = attached ∧ rule.childType = typeName
  · obtain ⟨rfl, rfl, rfl⟩ := adds
    obtain ⟨asking, askingFound, wanted, wants, rfl⟩ := missingIds_eq_ok_iff.1 missing
    obtain rfl := Option.some.inj (found.symm.trans askingFound)
    rw [if_pos ⟨rfl, rfl, rfl⟩, if_pos ⟨rfl, rfl, rfl⟩, length_freshIds, linkedCount_eq_typedCount,
      demand?_of_wantedCount wants]
    omega
  · rw [if_neg (by simpa [eq_comm] using adds), if_neg adds, Option.getD_none, Nat.max_zero,
      Nat.add_zero]

/-- Rules that are applied top the links of a resource up to the greatest quantity. -/
theorem typedCount_applyRules
    (expansion : Expansion)
    {due : List (String × HiddenRule)}
    (wellLinked : expansion.architecture.WellLinked)
    (completes : (applyRules catalog expansion due).failure = none)
    {resource : Resource}
    (found : expansion.architecture.resource? parent = some resource)
    (typeName : String)
    (attached : Bool) :
    ∃ grown, (applyRules catalog expansion due).architecture.resource? parent = some grown ∧
      typedCount (applyRules catalog expansion due).architecture typeName
          (grown.linksBy attached) =
        max (typedCount expansion.architecture typeName (resource.linksBy attached))
          (greatest (due.filterMap (dueDemand parent typeName attached resource.config))) := by
  induction due generalizing expansion resource with
  | nil => exact ⟨resource, found, by simp [applyRules]⟩
  | cons next rest inductionHypothesis =>
      obtain ⟨owner, rule⟩ := next
      obtain ⟨ids, missing⟩ := exists_missingIds_of_completes completes
      rw [applyRules_cons missing] at completes ⊢
      have addable := addable_of_missingIds missing
      have relinked := resource?_addChildren_of_found rule addable found
      obtain ⟨grown, grownFound, count⟩ := inductionHypothesis
        ⟨addChildren expansion.architecture rule owner ids, _, none⟩
        (wellLinked.addChildren rule addable) completes relinked
      refine ⟨grown, grownFound, ?_⟩
      rw [count, (growsTo_relink rule owner ids resource).config,
        typedCount_addition wellLinked.closed missing found, greatest_dueDemand_cons,
        Nat.max_assoc]

/-! ## Origins -/

/-- A drawn resource links to a resource, whose id is that of the drawn one with the type of the
resource in lower case and a number. -/
def AddedFor (architecture : Architecture) (drawnIds : List String) (resource : Resource) : Prop :=
  ∃ owner ∈ architecture.resources, owner.id ∈ drawnIds ∧
    (∃ attached, resource.id ∈ owner.linksBy attached) ∧
    ∃ number, resource.id = childId owner.id (Text.lower resource.typeName) (number + 1)

/-- A resource is drawn, or has been added for one that is drawn. -/
def Originates (architecture : Architecture) (drawnIds : List String) (resource : Resource) :
    Prop :=
  if resource.synthesized then
    resource.id ∉ drawnIds ∧ AddedFor architecture drawnIds resource
  else
    resource.id ∈ drawnIds

theorem AddedFor.addChildren
    {drawnIds : List String}
    (distinct : architecture.ids.Nodup)
    {resource : Resource}
    (added : AddedFor architecture drawnIds resource) :
    AddedFor (addChildren architecture rule parent ids) drawnIds
      (relink rule parent ids resource) := by
  obtain ⟨owner, ownerMember, ownerDrawn, ⟨attached, linked⟩, number, numbered⟩ := added
  have growth := growsTo_relink rule parent ids resource
  have ownerGrowth := growsTo_relink rule parent ids owner
  refine ⟨relink rule parent ids owner, (mem_addChildren_iff rule parent ids distinct _).2
    (Or.inl ⟨owner, ownerMember, rfl⟩), ?_, ⟨attached, ?_⟩, number, ?_⟩
  · rw [ownerGrowth.id]
    exact ownerDrawn
  · rw [growth.id]
    exact (ownerGrowth.linksBy_prefix attached).subset linked
  · rw [growth.id, growth.typeName, ownerGrowth.id]
    exact numbered

/-- What a rule adds is added for its parent. -/
theorem addedFor_of_missingIds
    {drawnIds : List String}
    (distinct : architecture.ids.Nodup)
    (isDrawn : parent ∈ drawnIds)
    (missing : missingIds catalog architecture rule parent = .ok ids)
    {new : String}
    (isNew : new ∈ ids) :
    AddedFor (addChildren architecture rule parent ids) drawnIds (synthesize rule parent new) := by
  obtain ⟨owner, found, wanted, _, areFresh⟩ := missingIds_eq_ok_iff.1 missing
  have isParent := id_of_resource? found
  obtain ⟨number, numbered⟩ := exists_number_of_mem_freshIds (areFresh.symm ▸ isNew)
  refine ⟨relink rule parent ids owner, (mem_addChildren_iff rule parent ids distinct _).2
    (Or.inl ⟨owner, List.mem_of_find?_eq_some found, rfl⟩), ?_, ⟨rule.isAttached, ?_⟩, number, ?_⟩
  · rw [id_relink, isParent]
    exact isDrawn
  · rw [linksBy_relink, if_pos ⟨isParent, rfl⟩]
    exact List.mem_append_right _ isNew
  · rw [id_relink, isParent]
    exact numbered

/-- An addition for a drawn resource changes no origin, and adds for what is drawn. -/
theorem originates_addChildren
    {drawnIds : List String}
    (distinct : architecture.ids.Nodup)
    (known : drawnIds ⊆ architecture.ids)
    (isDrawn : parent ∈ drawnIds)
    (missing : missingIds catalog architecture rule parent = .ok ids)
    (origins : ∀ resource ∈ architecture.resources, Originates architecture drawnIds resource) :
    ∀ resource ∈ (addChildren architecture rule parent ids).resources,
      Originates (addChildren architecture rule parent ids) drawnIds resource := by
  have addable := addable_of_missingIds missing
  intro resource member
  rcases (mem_addChildren_iff rule parent ids distinct resource).1 member with
    ⟨old, oldMember, rfl⟩ | ⟨new, isNew, rfl⟩
  · have before := origins old oldMember
    rw [Originates, synthesized_relink, id_relink]
    rw [Originates] at before
    split_ifs at before ⊢
    · exact ⟨before.1, before.2.addChildren distinct⟩
    · exact before
  · exact ⟨fun newDrawn => addable.fresh new isNew (known newDrawn),
      addedFor_of_missingIds distinct isDrawn missing isNew⟩

/-- Applying rules for drawn resources changes no origin, and adds for what is drawn. -/
theorem originates_applyRules
    {drawnIds : List String}
    {due : List (String × HiddenRule)}
    {expansion : Expansion}
    (wellLinked : expansion.architecture.WellLinked)
    (known : drawnIds ⊆ expansion.architecture.ids)
    (dueForDrawn : ∀ next ∈ due, next.1 ∈ drawnIds)
    (origins : ∀ resource ∈ expansion.architecture.resources,
      Originates expansion.architecture drawnIds resource) :
    ∀ resource ∈ (applyRules catalog expansion due).architecture.resources,
      Originates (applyRules catalog expansion due).architecture drawnIds resource := by
  have all := applyRules_induction
    (fun current => (current.WellLinked ∧ drawnIds ⊆ current.ids) ∧
      ∀ resource ∈ current.resources, Originates current drawnIds resource) catalog due ?_
    ⟨⟨wellLinked, known⟩, origins⟩
  · exact all.2
  rintro current rule parent ids ⟨⟨wellLinked, known⟩, origins⟩ isDue missing
  refine ⟨⟨wellLinked.addChildren rule (addable_of_missingIds missing), ?_⟩,
    originates_addChildren wellLinked.distinct known (dueForDrawn _ isDue) missing origins⟩
  intro id isDrawn
  obtain ⟨resource, member, rfl⟩ := List.mem_map.1 (known isDrawn)
  obtain ⟨grown, grownMember, growth⟩ :=
    growsTo_addChildren rule parent ids wellLinked.distinct resource member
  exact growth.id ▸ id_mem_ids grownMember

/-! ## Drawn resources -/

section OfGraph

variable {graph : Graph} {provider : Provider} {region : String}

theorem linksBy_ofNode (node : Node) :
    (ofNode graph node).linksBy attached = graph.drawnLinks attached node.id := by
  cases attached
  · rw [Graph.drawnLinks, if_neg Bool.false_ne_true]
    exact List.map_map
  · rfl

theorem resource?_drawn (id : String) :
    (drawn graph provider region).resource? id = (graph.node? id).map (ofNode graph) := by
  rw [resource?, drawn, List.find?_map]
  rfl

theorem resource?_drawn_of_mem
    (apart : graph.ids.Nodup)
    {node : Node}
    (nodeMember : node ∈ graph.nodes) :
    (drawn graph provider region).resource? node.id = some (ofNode graph node) := by
  rw [resource?_drawn, Graph.node?, (find?_name_eq_some_iff apart).2 ⟨nodeMember, rfl⟩]
  rfl

theorem typedCount_drawn (provider : Provider) (region : String) (node : Node) :
    typedCount (drawn graph provider region) typeName ((ofNode graph node).linksBy attached) =
      (graph.drawnOfType typeName attached node.id).length := by
  have sameType (id : String) :
      ((drawn graph provider region).resource? id).map (·.typeName) =
        (graph.node? id).map (·.typeName) := by
    rw [resource?_drawn, Option.map_map]
    rfl
  simp only [typedCount, sameType, linksBy_ofNode, Graph.drawnOfType, List.countP_eq_length_filter]

/-- The due rules ask for a drawn resource as much as the rules for its node do. -/
theorem greatest_dueDemand_drawn
    (region : String)
    (apart : graph.ids.Nodup)
    {node : Node}
    (nodeMember : node ∈ graph.nodes) :
    greatest ((dueRules catalog (drawn graph provider region)).filterMap
        (dueDemand node.id typeName attached node.metadata)) =
      greatest (demands catalog provider node typeName attached) := by
  apply greatest_congr
  intro quantity
  rw [List.mem_filterMap, mem_demands_iff]
  constructor
  · rintro ⟨⟨owner, rule⟩, isDue, demanded⟩
    rw [dueDemand] at demanded
    split_ifs at demanded with asks
    obtain ⟨rfl, isKind, isType⟩ := asks
    obtain ⟨other, otherMember, sameId, filed, covers⟩ := mem_dueRules_drawn_iff.1 isDue
    obtain rfl : other = node := List.inj_on_of_nodup_map apart otherMember nodeMember sameId
    exact ⟨rule, Catalog.mem_hiddenRules_iff.2 filed, covers, isType, isKind, demanded⟩
  · rintro ⟨rule, filed, covers, isType, isKind, demanded⟩
    refine ⟨(node.id, rule), mem_dueRules_drawn_iff.2
      ⟨node, nodeMember, rfl, Catalog.mem_hiddenRules_iff.1 filed, covers⟩, ?_⟩
    rw [dueDemand, if_pos ⟨rfl, isKind, isType⟩]
    exact demanded

/-- Every node is a resource that has as many links as are drawn or as a rule asks for. -/
theorem typedCount_of_ofGraph
    (forest : graph.IsForest)
    (made : ofGraph catalog graph provider region = .ok architecture)
    {node : Node}
    (nodeMember : node ∈ graph.nodes)
    {resource : Resource}
    (found : architecture.resource? node.id = some resource)
    (typeName : String)
    (attached : Bool) :
    typedCount architecture typeName (resource.linksBy attached) =
      max (graph.drawnOfType typeName attached node.id).length
        (greatest (demands catalog provider node typeName attached)) := by
  obtain ⟨_, completes, rfl⟩ := ofGraph_eq_ok_iff.1 made
  obtain ⟨grown, grownFound, count⟩ := typedCount_applyRules _ (wellLinked_drawn forest) completes
    (resource?_drawn_of_mem forest.apart nodeMember) typeName attached
  obtain rfl : grown = resource := Option.some.inj (grownFound.symm.trans found)
  rw [← greatest_dueDemand_drawn region forest.apart nodeMember,
    ← typedCount_drawn provider region]
  exact count

/-- What is short is added, and nothing else.  A drawn resource ends up with as many links to a
type as are drawn, or as the most demanding rule asks for.  What is added has an id of its own
that tells what it was added for, and the search for such ids always ends. -/
theorem expansion_fills_shortfall
    {diagram : Diagram}
    (resolved : diagram.toGraph = .ok graph)
    (made : ofGraph catalog graph provider region = .ok architecture) :
    (∀ node ∈ graph.nodes, ∃ resource, architecture.resource? node.id = some resource ∧
      (ofNode graph node).GrowsTo resource ∧
      ∀ typeName attached, typedCount architecture typeName (resource.linksBy attached) =
        max (graph.drawnOfType typeName attached node.id).length
          (greatest (demands catalog provider node typeName attached))) ∧
    (∀ resource ∈ architecture.resources, Originates architecture graph.ids resource) ∧
    architecture.ids.Nodup ∧
    ∀ taken parent slug wanted,
      FindsFree parent slug taken 1 wanted (freshIds taken parent slug wanted) := by
  have forest := Diagram.isForest_of_toGraph resolved
  have distinct := (wellLinked_of_ofGraph forest made).distinct
  refine ⟨?_, ?_, distinct, findsFree_freshIds⟩
  · intro node nodeMember
    obtain ⟨resource, member, growth⟩ :=
      grows_of_ofGraph forest made _ (List.mem_map_of_mem nodeMember)
    have found : architecture.resource? node.id = some resource :=
      (find?_name_eq_some_iff distinct).2 ⟨member, growth.id⟩
    exact ⟨resource, found, growth, typedCount_of_ofGraph forest made nodeMember found⟩
  · obtain ⟨_, _, rfl⟩ := ofGraph_eq_ok_iff.1 made
    have sameIds : (drawn graph provider region).ids = graph.ids := ids_drawn
    refine originates_applyRules (wellLinked_drawn forest) ?_ ?_ ?_
    · rw [sameIds]
      exact List.Subset.refl _
    · intro next isDue
      rw [← sameIds]
      exact known_of_mem_dueRules isDue
    · intro resource member
      obtain ⟨node, nodeMember, rfl⟩ := List.mem_map.1 member
      exact List.mem_map_of_mem nodeMember

end OfGraph

/-- A server, and a disk that is called like one that a rule adds. -/
def serverAndDisk : Diagram where
  nodes := [{ id := "web", typeName := "Server" }, { id := "web-disk-1", typeName := "Disk" }]

/-- The server is given one disk, under the next number. -/
theorem expansion_fills_shortfall_of_server :
    ∃ graph made resource, serverAndDisk.toGraph = .ok graph ∧
      ofGraph (serversWithDisks .aws) graph .aws "" = .ok made ∧
      made.ids = ["web", "web-disk-2", "web-disk-1"] ∧ made.resource? "web" = some resource ∧
      typedCount made "Disk" (resource.linksBy false) = 1 := by
  have makes : ∃ graph made, serverAndDisk.toGraph = .ok graph ∧
      ofGraph (serversWithDisks .aws) graph .aws "" = .ok made ∧
      made.ids = ["web", "web-disk-2", "web-disk-1"] ∧
      { id := "web", typeName := "Server" } ∈ graph.nodes ∧
      (graph.drawnOfType "Disk" false "web").length = 0 :=
    ⟨_, _, rfl, rfl, rfl, List.mem_cons_self, rfl⟩
  obtain ⟨graph, made, resolved, isMade, ids, webMember, noneDrawn⟩ := makes
  obtain ⟨resource, found, _, count⟩ := (expansion_fills_shortfall resolved isMade).1 _ webMember
  refine ⟨graph, made, resource, resolved, isMade, ids, found, ?_⟩
  rw [count, noneDrawn]
  rfl

end Architecture

end CloudPlan
