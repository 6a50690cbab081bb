import CloudPlan.Proofs.Architecture.Reachable
import CloudPlan.Proofs.Architecture.Retention
import CloudPlan.Proofs.Catalog.Filing

/-!
# What an expansion adds and keeps

Resources only gain contents and dependencies, and every resource that is added is of a
type that a due rule names.  In the architecture of a graph every rule for what is drawn
finds linked what it wants.
-/

namespace CloudPlan.Architecture

variable {old middle new architecture : Architecture} {rule : HiddenRule} {parent : String}
  {ids : List String}

/-- Every resource is still there, as it was or grown. -/
def GrowsTo (old new : Architecture) : Prop :=
  ∀ resource ∈ old.resources, ∃ grown ∈ new.resources, resource.GrowsTo grown

theorem GrowsTo.refl (architecture : Architecture) : architecture.GrowsTo architecture :=
  fun resource member => ⟨resource, member, .refl resource⟩

theorem GrowsTo.trans (first : old.GrowsTo middle) (second : middle.GrowsTo new) :
    old.GrowsTo new := by
  intro resource member
  obtain ⟨halfGrown, halfMember, half⟩ := first resource member
  obtain ⟨grown, grownMember, rest⟩ := second halfGrown halfMember
  exact ⟨grown, grownMember, half.trans rest⟩

section Addition

variable (rule : HiddenRule) (parent : String) (ids : List String)

theorem mem_addChildren_iff
    (distinct : architecture.ids.Nodup)
    (resource : Resource) :
    resource ∈ (addChildren architecture rule parent ids).resources ↔
      (∃ old ∈ architecture.resources, relink rule parent ids old = resource) ∨
        ∃ id ∈ ids, synthesize rule parent id = resource := by
  rw [(addChildren_perm distinct).mem_iff, mem_extended_iff]

theorem growsTo_addChildren (distinct : architecture.ids.Nodup) :
    architecture.GrowsTo (addChildren architecture rule parent ids) :=
  fun resource member =>
    ⟨relink rule parent ids resource,
      (mem_addChildren_iff rule parent ids distinct _).2 (Or.inl ⟨resource, member, rfl⟩),
      growsTo_relink rule parent ids resource⟩

end Addition

theorem WellLinked.addChildren
    (wellLinked : architecture.WellLinked)
    (rule : HiddenRule)
    (addable : Addable architecture parent ids) :
    (addChildren architecture rule parent ids).WellLinked :=
  (wellLinked.extended rule addable).of_perm (addChildren_perm wellLinked.distinct)

/-! ## What a rule wants -/

/-- A rule finds linked to a parent as many resources as it wants. -/
def Provides (catalog : Catalog) (architecture : Architecture) (parent : String)
    (rule : HiddenRule) : Prop :=
  ∃ resource ∈ architecture.resources, resource.id = parent ∧
    ∃ wanted, wantedCount catalog rule resource.config = .ok wanted ∧
      wanted.getD 0 ≤ linkedCount architecture rule resource

/-- A rule that misses nothing finds what it wants. -/
theorem provides_of_nothing_missing
    {catalog : Catalog}
    (nothing : missingIds catalog architecture rule parent = .ok []) :
    Provides catalog architecture parent rule := by
  obtain ⟨resource, found, wanted, wants, linked⟩ := missingIds_eq_nil_iff.1 nothing
  exact ⟨resource, List.mem_of_find?_eq_some found, id_of_resource? found, wanted, wants, linked⟩

/-- A rule wants resources when it applies, says how many, and their type is known. -/
theorem wantedCount_eq_some_iff
    {catalog : Catalog}
    {config : Metadata}
    {count : Nat} :
    wantedCount catalog rule config = .ok (some count) ↔
      rule.appliesTo config = .ok true ∧ rule.count config = .ok count ∧
        ∃ type, catalog.resolve rule.childType = .ok type := by
  unfold wantedCount
  cases rule.appliesTo config with
  | error error => simp
  | ok applies =>
      cases applies with
      | false => simp
      | true =>
          cases rule.count config with
          | error error => simp
          | ok wanted => cases catalog.resolve rule.childType <;> simp

/-- It wants nothing when it does not apply. -/
theorem wantedCount_eq_none_iff
    {catalog : Catalog}
    {config : Metadata} :
    wantedCount catalog rule config = .ok none ↔ rule.appliesTo config = .ok false := by
  unfold wantedCount
  cases rule.appliesTo config with
  | error error => simp
  | ok applies =>
      cases applies with
      | false => simp
      | true =>
          cases rule.count config with
          | error error => simp
          | ok wanted => cases catalog.resolve rule.childType <;> simp

theorem exists_linked_of_linkedCount_pos
    {resource : Resource}
    (linked : 0 < linkedCount architecture rule resource) :
    ∃ child ∈ architecture.resources,
      child.typeName = rule.childType ∧ child.id ∈ linkedIds rule resource := by
  obtain ⟨id, isLinked, typed⟩ := List.countP_pos_iff.1 linked
  obtain ⟨child, found, isType⟩ := Option.map_eq_some_iff.1 (beq_iff_eq.1 typed)
  obtain rfl := id_of_resource? found
  exact ⟨child, List.mem_of_find?_eq_some found, isType, isLinked⟩

/-! ## Whole expansions -/

/-- A rule wants resources for a parent, however many are linked already. -/
def Wants (catalog : Catalog) (architecture : Architecture) (parent : String)
    (rule : HiddenRule) : Prop :=
  ∃ resource ∈ architecture.resources, resource.id = parent ∧
    ∃ count, wantedCount catalog rule resource.config = .ok (some (count + 1))

/-- A rule that adds something wants it. -/
theorem wants_of_missingIds
    {catalog : Catalog}
    {id : String}
    (missing : missingIds catalog architecture rule parent = .ok ids)
    (isNew : id ∈ ids) :
    Wants catalog architecture parent rule := by
  obtain ⟨resource, found, wanted, wants, rfl⟩ := missingIds_eq_ok_iff.1 missing
  refine ⟨resource, List.mem_of_find?_eq_some found, id_of_resource? found, ?_⟩
  have length := length_freshIds architecture.ids parent (slug rule)
    (wanted.getD 0 - linkedCount architecture rule resource)
  have missesSome : 0 < wanted.getD 0 - linkedCount architecture rule resource :=
    length ▸ List.length_pos_of_mem isNew
  match wanted with
  | none => simp at missesSome
  | some 0 => simp at missesSome
  | some (count + 1) => exact ⟨count, wants⟩

/-- Growing changes nothing about what is wanted. -/
theorem Wants.of_growsTo
    {catalog : Catalog}
    (wants : Wants catalog new parent rule)
    (distinct : new.ids.Nodup)
    (grows : old.GrowsTo new)
    (known : parent ∈ old.ids) :
    Wants catalog old parent rule := by
  obtain ⟨wanting, wantingMember, isParent, wanted⟩ := wants
  obtain ⟨resource, member, sameId⟩ := List.mem_map.1 known
  obtain ⟨grown, grownMember, growth⟩ := grows resource member
  obtain rfl : grown = wanting := List.inj_on_of_nodup_map distinct grownMember wantingMember
    (growth.id.trans (sameId.trans isParent.symm))
  exact ⟨resource, member, sameId, growth.config ▸ wanted⟩

/-- An addition keeps an architecture well linked and lets it grow only. -/
theorem grows_addition
    (rule : HiddenRule)
    (grows : new.WellLinked ∧ old.GrowsTo new)
    (addable : Addable new parent ids) :
    (addChildren new rule parent ids).WellLinked ∧
      old.GrowsTo (addChildren new rule parent ids) :=
  ⟨grows.1.addChildren rule addable,
    grows.2.trans (growsTo_addChildren rule parent ids grows.1.distinct)⟩

/-- Applying rules keeps an architecture well linked and lets it grow only. -/
theorem grows_applyRules
    (expansion : Expansion)
    (wellLinked : expansion.architecture.WellLinked)
    (catalog : Catalog)
    (due : List (String × HiddenRule)) :
    (applyRules catalog expansion due).architecture.WellLinked ∧
      expansion.architecture.GrowsTo (applyRules catalog expansion due).architecture := by
  refine applyRules_induction (fun new => new.WellLinked ∧ expansion.architecture.GrowsTo new)
    catalog due ?_ ⟨wellLinked, .refl _⟩
  intro architecture rule parent ids grows _ missing
  exact grows_addition rule grows (addable_of_missingIds missing)

/-- What rules add is of a type that a due rule names and wants. -/
theorem origin_applyRules
    (expansion : Expansion)
    (wellLinked : expansion.architecture.WellLinked)
    (catalog : Catalog)
    {due : List (String × HiddenRule)}
    (known : ∀ next ∈ due, next.1 ∈ expansion.architecture.ids) :
    ∀ resource ∈ (applyRules catalog expansion due).architecture.resources,
      (∃ before ∈ expansion.architecture.resources, before.GrowsTo resource) ∨
        ∃ next ∈ due, resource.typeName = next.2.childType ∧
          Wants catalog expansion.architecture next.1 next.2 := by
  let Originates (resource : Resource) : Prop :=
    (∃ before ∈ expansion.architecture.resources, before.GrowsTo resource) ∨
      ∃ next ∈ due, resource.typeName = next.2.childType ∧
        Wants catalog expansion.architecture next.1 next.2
  have all := applyRules_induction
    (fun new => (new.WellLinked ∧ expansion.architecture.GrowsTo new) ∧
      ∀ resource ∈ new.resources, Originates resource) catalog due ?_
    ⟨⟨wellLinked, .refl _⟩, fun resource member => Or.inl ⟨resource, member, .refl resource⟩⟩
  · exact all.2
  rintro architecture rule parent ids ⟨grows, origins⟩ isDue missing
  refine ⟨grows_addition rule grows (addable_of_missingIds missing), ?_⟩
  intro resource member
  rcases (mem_addChildren_iff rule parent ids grows.1.distinct resource).1 member with
    ⟨previous, previousMember, rfl⟩ | ⟨id, isNew, rfl⟩
  · have growth := growsTo_relink rule parent ids previous
    rcases origins previous previousMember with
      ⟨before, beforeMember, earlier⟩ | ⟨next, isNext, named, wants⟩
    · exact Or.inl ⟨before, beforeMember, earlier.trans growth⟩
    · exact Or.inr ⟨next, isNext, growth.typeName.trans named, wants⟩
  · exact Or.inr ⟨(parent, rule), isDue, rfl, (wants_of_missingIds missing isNew).of_growsTo
      grows.1.distinct grows.2 (known _ isDue)⟩

/-! ## Architectures of graphs -/

section OfGraph

variable {catalog : Catalog} {graph : Graph} {provider : Provider} {region : String}

theorem checkTypes_eq_ok_iff
    {nodes : List Node} :
    checkTypes catalog provider nodes = .ok () ↔
      ∀ node ∈ nodes, ∃ type, catalog.resolveFor node.typeName provider = .ok type := by
  induction nodes with
  | nil => simp [checkTypes]
  | cons node rest inductionHypothesis =>
      rw [checkTypes, bind_eq_ok_iff, List.forall_mem_cons, inductionHypothesis, exists_and_right]

/-- The types of nodes resolve for the provider. -/
theorem resolves_of_ofGraph
    (made : ofGraph catalog graph provider region = .ok architecture)
    {node : Node}
    (member : node ∈ graph.nodes) :
    ∃ type, catalog.resolveFor node.typeName provider = .ok type :=
  checkTypes_eq_ok_iff.1 (ofGraph_eq_ok_iff.1 made).1 node member

/-- The rules of the types of what is drawn are due. -/
theorem mem_dueRules_drawn_iff :
    (parent, rule) ∈ dueRules catalog (drawn graph provider region) ↔
      ∃ node ∈ graph.nodes, node.id = parent ∧ (node.typeName, rule) ∈ catalog.rules ∧
        Provider.covers rule.provider provider = true := by
  simp only [dueRules, List.mem_flatMap, List.mem_map, List.mem_filter, Prod.mk.injEq,
    Catalog.mem_hiddenRules_iff]
  constructor
  · rintro ⟨resource, ⟨member, _⟩, _, ⟨filed, covers⟩, rfl, rfl⟩
    obtain ⟨node, nodeMember, rfl⟩ := List.mem_map.1 member
    exact ⟨node, nodeMember, rfl, filed, covers⟩
  · rintro ⟨node, member, rfl, filed, covers⟩
    exact ⟨ofNode graph node, ⟨List.mem_map_of_mem member, rfl⟩, rule, ⟨filed, covers⟩, rfl, rfl⟩

/-- The resources of a graph are there, grown. -/
theorem grows_of_ofGraph
    (forest : graph.IsForest)
    (made : ofGraph catalog graph provider region = .ok architecture) :
    (drawn graph provider region).GrowsTo architecture := by
  obtain ⟨_, _, rfl⟩ := ofGraph_eq_ok_iff.1 made
  exact (grows_applyRules ⟨_, 0, none⟩ (wellLinked_drawn forest) catalog _).2

/-- A rule for the type of a node covers the provider and wants resources for the node. -/
structure Demands (catalog : Catalog) (provider : Provider) (node : Node)
    (rule : HiddenRule) : Prop where
  /-- The rule is filed under the type of the node. -/
  filed : (node.typeName, rule) ∈ catalog.rules
  /-- It covers the provider. -/
  covers : Provider.covers rule.provider provider = true
  /-- It wants at least one resource. -/
  wanted : ∃ count, wantedCount catalog rule node.metadata = .ok (some (count + 1))

theorem known_of_mem_dueRules
    {next : String × HiddenRule}
    (isDue : next ∈ dueRules catalog architecture) :
    next.1 ∈ architecture.ids := by
  obtain ⟨resource, member, isRule⟩ := List.mem_flatMap.1 isDue
  obtain ⟨rule, _, rfl⟩ := List.mem_map.1 isRule
  exact id_mem_ids (List.mem_of_mem_filter member)

/-- Every resource comes from a node or is of a type that some node demands. -/
theorem origin_of_ofGraph
    (forest : graph.IsForest)
    (made : ofGraph catalog graph provider region = .ok architecture)
    {resource : Resource}
    (member : resource ∈ architecture.resources) :
    (∃ node ∈ graph.nodes, (ofNode graph node).GrowsTo resource) ∨
      ∃ node ∈ graph.nodes, ∃ rule, Demands catalog provider node rule ∧
        resource.typeName = rule.childType := by
  obtain ⟨_, _, rfl⟩ := ofGraph_eq_ok_iff.1 made
  have known : ∀ next ∈ dueRules catalog (drawn graph provider region),
      next.1 ∈ (drawn graph provider region).ids := fun _ => known_of_mem_dueRules
  have origins := origin_applyRules ⟨drawn graph provider region, 0, none⟩
    (wellLinked_drawn forest) catalog known
  rcases origins resource member with
    ⟨before, beforeMember, growth⟩ | ⟨⟨parent, rule⟩, isDue, named, wants⟩
  · obtain ⟨node, nodeMember, rfl⟩ := List.mem_map.1 beforeMember
    exact Or.inl ⟨node, nodeMember, growth⟩
  · obtain ⟨node, nodeMember, rfl, filed, covers⟩ := mem_dueRules_drawn_iff.1 isDue
    obtain ⟨wanting, wantingMember, sameId, wanted⟩ := wants
    obtain ⟨other, otherMember, rfl⟩ := List.mem_map.1 wantingMember
    obtain rfl : other = node := List.inj_on_of_nodup_map forest.apart otherMember nodeMember sameId
    exact Or.inr ⟨other, nodeMember, rule, ⟨filed, covers, wanted⟩, named⟩

/-- The resource of a node is contained in that of the container of the node. -/
theorem exists_container_of_ofGraph
    (forest : graph.IsForest)
    (made : ofGraph catalog graph provider region = .ok architecture)
    {node container : Node}
    (isContainer : graph.parent? node.id = some container)
    {resource : Resource}
    (growth : (ofNode graph node).GrowsTo resource) :
    ∃ grown ∈ architecture.resources,
      grown.typeName = container.typeName ∧ resource.parent? = some grown.id := by
  obtain ⟨id, isId, found⟩ := Option.bind_eq_some_iff.1 isContainer
  obtain rfl : container.id = id := by simpa using List.find?_some found
  have drawnMember : ofNode graph container ∈ (drawn graph provider region).resources :=
    List.mem_map_of_mem (List.mem_of_find?_eq_some found)
  obtain ⟨grown, grownMember, containerGrowth⟩ := grows_of_ofGraph forest made _ drawnMember
  refine ⟨grown, grownMember, containerGrowth.typeName, ?_⟩
  rw [Resource.parent?, growth.parents, containerGrowth.id]
  simp [ofNode, isId]

/-- The rules for what is drawn find what they want. -/
theorem provides_of_ofGraph
    (made : ofGraph catalog graph provider region = .ok architecture)
    {node : Node}
    (member : node ∈ graph.nodes)
    (filed : (node.typeName, rule) ∈ catalog.rules)
    (covers : Provider.covers rule.provider provider = true) :
    Provides catalog architecture node.id rule := by
  obtain ⟨_, completes, rfl⟩ := ofGraph_eq_ok_iff.1 made
  exact provides_of_nothing_missing (nothing_missing_applyRules completes _
    (mem_dueRules_drawn_iff.2 ⟨node, member, rfl, filed, covers⟩))

end OfGraph

end CloudPlan.Architecture
