import CloudPlan.Proofs.Architecture.Idempotence
import CloudPlan.Proofs.Architecture.Restoration
import CloudPlan.Proofs.Architecture.Shortfall

/-!
# Families of resources

In the architecture of a graph every drawn resource is followed by what its rules have added
for it, rule by rule and number by number, and by nothing else.  The rules for a resource add
to the end of its family, which is where the next drawn resource starts.  So when the rules for
one resource are through, its family is complete, and the resources behind it are as they were.
-/

namespace CloudPlan.Architecture

variable {architecture : Architecture} {catalog : Catalog} {rule : HiddenRule}
  {parent : String} {ids : List String} {front back tail : List Resource} {head : Resource}

/-! ## Adding to a family -/

theorem modifyFirst_append
    (notBefore : parent ∉ front.map (·.id))
    (change : Resource → Resource)
    (rest : List Resource) :
    modifyFirst parent change (front ++ rest) = front ++ modifyFirst parent change rest := by
  induction front with
  | nil => rfl
  | cons first others inductionHypothesis =>
      rw [List.map_cons, List.mem_cons, not_or] at notBefore
      rw [List.cons_append, modifyFirst, if_neg (Ne.symm notBefore.1),
        inductionHypothesis notBefore.2, List.cons_append]

theorem insertAfter_append
    (notBefore : parent ∉ front.map (·.id))
    (added rest : List Resource) :
    insertAfter parent added (front ++ rest) = front ++ insertAfter parent added rest := by
  induction front with
  | nil => rfl
  | cons first others inductionHypothesis =>
      rw [List.map_cons, List.mem_cons, not_or] at notBefore
      rw [List.cons_append, insertAfter, if_neg (Ne.symm notBefore.1),
        inductionHypothesis notBefore.2, List.cons_append]

/-- What is added for a resource comes behind the synthesized resources that follow it. -/
theorem resources_addChildren
    (parts : architecture.resources = front ++ head :: tail ++ back)
    (isParent : head.id = parent)
    (notBefore : parent ∉ front.map (·.id))
    (tailAdded : ∀ resource ∈ tail, resource.synthesized = true)
    (backDrawn : ∀ resource ∈ back.head?, resource.synthesized = false)
    (rule : HiddenRule)
    (ids : List String) :
    (addChildren architecture rule parent ids).resources =
      front ++ linkTo rule ids head :: (tail ++ ids.map (synthesize rule parent)) ++ back := by
  have linked : modifyFirst parent (linkTo rule ids) architecture.resources =
      front ++ linkTo rule ids head :: (tail ++ back) := by
    rw [parts, List.append_assoc, modifyFirst_append notBefore, List.cons_append, modifyFirst,
      if_pos isParent]
  rw [addChildren, linked]
  change insertAfter _ _ _ = _
  rw [insertAfter_append notBefore, insertAfter, if_pos ((id_linkTo head).trans isParent),
    takeWhile_append_stop tailAdded backDrawn, dropWhile_append_stop tailAdded backDrawn]
  simp only [List.append_assoc, List.cons_append]

/-! ## Families -/

/-- What a rule has added for a resource: resources under the ids that these numbers give. -/
structure Offspring where
  /-- The rule. -/
  rule : HiddenRule
  /-- The numbers. -/
  numbers : List Nat

namespace Offspring

variable {parent : String}

/-- The ids for a parent. -/
def idsFor (parent : String) (offspring : Offspring) : List String :=
  offspring.numbers.map (childId parent (slug offspring.rule))

/-- The resources for a parent. -/
def resourcesFor (parent : String) (offspring : Offspring) : List Resource :=
  (offspring.idsFor parent).map (synthesize offspring.rule parent)

/-- The numbers go up, and none is below one. -/
def Ascends (offspring : Offspring) : Prop :=
  offspring.numbers.Pairwise (· < ·) ∧ 0 ∉ offspring.numbers

/-- What a rule misses are the ids of ascending numbers. -/
theorem exists_of_missingIds
    (missing : missingIds catalog architecture rule parent = .ok ids) :
    ∃ offspring : Offspring, offspring.rule = rule ∧ offspring.Ascends ∧
      offspring.idsFor parent = ids := by
  obtain ⟨resource, _, wanted, _, rfl⟩ := missingIds_eq_ok_iff.1 missing
  rw [freshIds_eq_take, candidates, List.filter_map, ← List.map_take]
  refine ⟨⟨rule, _⟩, rfl, ⟨?_, ?_⟩, rfl⟩
  · exact List.Pairwise.sublist ((List.take_sublist _ _).trans List.filter_sublist)
      (List.pairwise_lt_range' 1)
  · intro isNumber
    have inRange := List.mem_of_mem_filter (List.mem_of_mem_take isNumber)
    exact absurd (List.mem_range'_1.1 inRange).1 (by decide)

end Offspring

/-- A resource with links to what rules have added for it. -/
def linkToAll (all : List Offspring) (resource : Resource) : Resource :=
  all.foldl (fun grown one => linkTo one.rule (one.idsFor resource.id) grown) resource

/-- A resource that is linked to what rules have added for it, followed by that. -/
def family (resource : Resource) (all : List Offspring) : List Resource :=
  linkToAll all resource :: all.flatMap (·.resourcesFor resource.id)

section Family

variable (resource : Resource) (all : List Offspring) (one : Offspring)

theorem linkToAll_concat :
    linkToAll (all ++ [one]) resource =
      linkTo one.rule (one.idsFor resource.id) (linkToAll all resource) :=
  List.foldl_concat _ _ _ _

@[simp] theorem id_linkToAll : (linkToAll all resource).id = resource.id := by
  induction all using List.reverseRecOn with
  | nil => rfl
  | append_singleton others last inductionHypothesis =>
      rw [linkToAll_concat, id_linkTo, inductionHypothesis]

theorem synthesized_of_mem_offspring :
    ∀ added ∈ all.flatMap (·.resourcesFor resource.id), added.synthesized = true := by
  intro added member
  obtain ⟨one, _, isOffspring⟩ := List.mem_flatMap.1 member
  obtain ⟨id, _, rfl⟩ := List.mem_map.1 isOffspring
  rfl

end Family

/-! ## Rules one after the other -/

/-- The rules for a resource add to its family, in their order. -/
theorem exists_offspring_of_applyRules
    {resource : Resource}
    {all : List Offspring}
    {rules : List HiddenRule}
    {expansion : Expansion}
    (parts : expansion.architecture.resources = front ++ family resource all ++ back)
    (notBefore : resource.id ∉ front.map (·.id))
    (backDrawn : ∀ resource ∈ back.head?, resource.synthesized = false)
    (completes : (applyRules catalog expansion (rules.map (resource.id, ·))).failure = none) :
    ∃ more : List Offspring, more.map (·.rule) = rules ∧ (∀ one ∈ more, one.Ascends) ∧
      (applyRules catalog expansion (rules.map (resource.id, ·))).architecture.resources =
        front ++ family resource (all ++ more) ++ back := by
  induction rules generalizing all expansion with
  | nil => exact ⟨[], rfl, by simp, by rw [List.append_nil]; exact parts⟩
  | cons rule others inductionHypothesis =>
      rw [List.map_cons] at completes ⊢
      obtain ⟨ids, missing⟩ := exists_missingIds_of_completes completes
      rw [applyRules_cons missing] at completes ⊢
      obtain ⟨one, rfl, ascends, rfl⟩ := Offspring.exists_of_missingIds missing
      have larger : (addChildren expansion.architecture one.rule resource.id
          (one.idsFor resource.id)).resources =
            front ++ family resource (all ++ [one]) ++ back := by
        rw [resources_addChildren parts (id_linkToAll resource all) notBefore
          (synthesized_of_mem_offspring resource all) backDrawn, family, linkToAll_concat,
          List.flatMap_append, List.flatMap_singleton]
        rfl
      obtain ⟨more, areRules, ascend, resources⟩ := inductionHypothesis larger completes
      refine ⟨one :: more, ?_, ?_, ?_⟩
      · rw [List.map_cons, areRules]
      · exact List.forall_mem_cons.2 ⟨ascends, ascend⟩
      · rw [resources, List.append_assoc all]
        rfl

theorem distinct_applyRules
    {expansion : Expansion}
    (distinct : expansion.architecture.ids.Nodup)
    (due : List (String × HiddenRule)) :
    (applyRules catalog expansion due).architecture.ids.Nodup := by
  refine applyRules_induction (·.ids.Nodup) catalog due ?_ distinct
  intro architecture rule parent ids distinct _ missing
  exact (addable_of_missingIds missing).distinct_addChildren distinct rule

/-- The rules of the type of a resource that are for a provider. -/
def rulesFor (catalog : Catalog) (provider : Provider) (resource : Resource) : List HiddenRule :=
  (catalog.hiddenRules resource.typeName).filter (Provider.covers ·.provider provider)

theorem dueFor_of_drawn
    {resource : Resource}
    (isDrawn : resource.synthesized = false)
    (catalog : Catalog)
    (provider : Provider) :
    dueFor catalog provider resource =
      (rulesFor catalog provider resource).map (resource.id, ·) := by
  rw [dueFor, isDrawn]
  rfl

/-- The members are a resource and what its rules have added for it, rule by rule and number by
number. -/
def IsFamily (catalog : Catalog) (provider : Provider) (resource : Resource)
    (members : List Resource) : Prop :=
  ∃ all : List Offspring, all.map (·.rule) = rulesFor catalog provider resource ∧
    (∀ one ∈ all, one.Ascends) ∧ members = family resource all

/-- Rules that are applied to drawn resources, one resource after the other, make families of
them, one behind the other. -/
theorem exists_families_of_applyRules
    {provider : Provider}
    {resources : List Resource}
    {expansion : Expansion}
    (parts : expansion.architecture.resources = front ++ resources)
    (distinct : expansion.architecture.ids.Nodup)
    (areDrawn : ∀ resource ∈ resources, resource.synthesized = false)
    (begins : expansion.failure = none)
    (completes : (applyRules catalog expansion
      (resources.map (dueFor catalog provider)).flatten).failure = none) :
    ∃ families, List.Forall₂ (IsFamily catalog provider) resources families ∧
      (applyRules catalog expansion
        (resources.map (dueFor catalog provider)).flatten).architecture.resources =
          front ++ families.flatten := by
  induction resources generalizing front expansion with
  | nil => exact ⟨[], .nil, parts⟩
  | cons resource others inductionHypothesis =>
      obtain ⟨isDrawn, othersDrawn⟩ := List.forall_mem_cons.1 areDrawn
      rw [List.map_cons, List.flatten_cons, dueFor_of_drawn isDrawn] at completes ⊢
      have completesFirst := completes_of_append begins completes
      rw [applyRules_append completesFirst] at completes ⊢
      have notBefore : resource.id ∉ front.map (·.id) := by
        rw [ids, parts, List.map_append, List.map_cons] at distinct
        exact fun before => (List.disjoint_of_nodup_append distinct) before List.mem_cons_self
      have asFamily : expansion.architecture.resources = front ++ family resource [] ++ others := by
        rw [parts, List.append_cons]
        rfl
      obtain ⟨all, areRules, ascend, grown⟩ :=
        exists_offspring_of_applyRules asFamily notBefore
          (fun next isNext => othersDrawn next (List.mem_of_head? isNext)) completesFirst
      -- The others follow the family, as they followed the resource.
      obtain ⟨families, areFamilies, resources⟩ :=
        inductionHypothesis grown (distinct_applyRules distinct _) othersDrawn completesFirst
          completes
      refine ⟨family resource all :: families, .cons ⟨all, areRules, ascend, rfl⟩ areFamilies, ?_⟩
      rw [resources, List.flatten_cons, List.append_assoc]
      rfl

/-! ## Whole expansions -/

section OfGraph

variable {graph : Graph} {provider : Provider} {region : String}

/-- The resources of a graph are the families of what its nodes draw, in the order of the nodes. -/
theorem exists_families_of_ofGraph
    (apart : graph.ids.Nodup)
    (made : ofGraph catalog graph provider region = .ok architecture) :
    ∃ families,
      List.Forall₂ (fun node => IsFamily catalog provider (ofNode graph node))
        graph.nodes families ∧
      architecture.resources = families.flatten := by
  obtain ⟨_, completes, rfl⟩ := ofGraph_eq_ok_iff.1 made
  have areDrawn : ∀ resource ∈ graph.nodes.map (ofNode graph), resource.synthesized = false := by
    intro resource member
    obtain ⟨node, _, rfl⟩ := List.mem_map.1 member
    rfl
  have nothingBefore : (drawn graph provider region).resources =
      [] ++ graph.nodes.map (ofNode graph) := rfl
  rw [expand, dueRules_eq_flatten] at completes ⊢
  obtain ⟨families, areFamilies, resources⟩ :=
    exists_families_of_applyRules nothingBefore (ids_drawn ▸ apart) areDrawn rfl completes
  exact ⟨families, List.forall₂_map_left_iff.1 areFamilies, resources⟩

end OfGraph

/-- An expansion only adds.  Whether or not a rule fails, taking the new ids away again gives the
architecture that there was, and what is new has nothing of its own.  In the architecture of a
graph what is new stands behind the resource that it was added for. -/
theorem expansion_only_adds :
    (∀ catalog (architecture : Architecture), architecture.ids.Nodup → architecture.Closed →
      (expand catalog architecture).architecture.keeping
          (· ∉ newIds architecture (expand catalog architecture).architecture) = architecture ∧
        ∀ resource ∈ (expand catalog architecture).architecture.resources,
          resource.id ∉ architecture.ids → Added catalog resource) ∧
    ∀ (diagram : Diagram) graph catalog provider region architecture,
      diagram.toGraph = .ok graph → ofGraph catalog graph provider region = .ok architecture →
      ∃ families,
        List.Forall₂ (fun node => IsFamily catalog provider (ofNode graph node))
          graph.nodes families ∧
        architecture.resources = families.flatten := by
  constructor
  · intro catalog architecture distinct closed
    have adds := onlyAdds_expand distinct closed catalog
    exact ⟨adds.restored, adds.added⟩
  · intro diagram graph catalog provider region architecture resolved made
    exact exists_families_of_ofGraph (Diagram.isForest_of_toGraph resolved).apart made

/-- A stopped expansion of the network leaves a gateway, without which the network is as drawn.
In an expansion that is completed the gateway is in the family of the network. -/
theorem expansion_only_adds_gateway :
    ∃ graph made, Diagram.network.toGraph = .ok graph ∧
      (expand interrupting (drawn graph .aws "")).failure.isSome = true ∧
      (expand interrupting (drawn graph .aws "")).architecture.ids =
        ["net", "net-gateway-1", "web", "db"] ∧
      (expand interrupting (drawn graph .aws "")).architecture.keeping (· ∉ ["net-gateway-1"]) =
        drawn graph .aws "" ∧
      ofGraph { interrupting with rules := interrupting.rules.take 1 } graph .aws "" = .ok made ∧
      made.ids = ["net", "net-gateway-1", "web", "db"] ∧
      ∃ families, List.Forall₂ (fun node => IsFamily
          { interrupting with rules := interrupting.rules.take 1 } .aws (ofNode graph node))
            graph.nodes families ∧
        made.resources = families.flatten := by
  have draws : ∃ graph made, Diagram.network.toGraph = .ok graph ∧
      (expand interrupting (drawn graph .aws "")).failure.isSome = true ∧
      (expand interrupting (drawn graph .aws "")).architecture.ids =
        ["net", "net-gateway-1", "web", "db"] ∧
      newIds (drawn graph .aws "") (expand interrupting (drawn graph .aws "")).architecture =
        ["net-gateway-1"] ∧
      ofGraph { interrupting with rules := interrupting.rules.take 1 } graph .aws "" = .ok made ∧
      made.ids = ["net", "net-gateway-1", "web", "db"] :=
    ⟨_, _, rfl, rfl, rfl, rfl, rfl, rfl⟩
  obtain ⟨graph, made, resolved, stopped, stoppedIds, new, isMade, ids⟩ := draws
  have wellLinked : (drawn graph .aws "").WellLinked :=
    wellLinked_drawn (Diagram.isForest_of_toGraph resolved)
  have restored :=
    (expansion_only_adds.1 interrupting _ wellLinked.distinct wellLinked.closed).1
  rw [new] at restored
  exact ⟨graph, made, resolved, stopped, stoppedIds, restored, isMade, ids,
    expansion_only_adds.2 _ _ _ _ _ _ resolved isMade⟩

end CloudPlan.Architecture
