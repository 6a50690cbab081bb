import CloudPlan.Proofs.Architecture.Order
import CloudPlan.Proofs.Architecture.Synthesis
import CloudPlan.Proofs.Architecture.WellLinked
import CloudPlan.Proofs.Diagram.Acceptance

/-!
# What becomes of a diagram

Architectures are made from accepted diagrams, expanded and sorted, in any order and
with any catalogues.  Whatever has become of one, it is well linked.
-/

namespace CloudPlan.Architecture

variable {architecture : Architecture} {rule : HiddenRule} {parent : String}
  {ids : List String}

/-! ## Additions -/

theorem Addable.distinct_extended
    (addable : Addable architecture parent ids)
    (distinct : architecture.ids.Nodup)
    (rule : HiddenRule) :
    (architecture.extended rule parent ids).ids.Nodup := by
  rw [ids_extended]
  exact distinct.append addable.apart fun id old new => addable.fresh id new old

theorem Closed.extended
    (closed : architecture.Closed)
    (rule : HiddenRule)
    (addable : Addable architecture parent ids) :
    (architecture.extended rule parent ids).Closed := by
  rw [closed_iff_links] at closed ⊢
  intro link linkMember
  rw [ids_extended, List.mem_append]
  rcases (mem_links_extended addable.parentKnown link).1 linkMember with before | added
  · exact Or.inl (closed link before)
  · obtain ⟨owner, relation, target⟩ := link
    cases relation with
    | parent => exact Or.inl (added.2.1 ▸ addable.parentKnown)
    | child => exact Or.inr added.2.2
    | dependency => exact Or.inr added.2.2

theorem parentId?_extended_of_mem
    (distinct : (architecture.extended rule parent ids).ids.Nodup)
    {resource : Resource}
    (member : resource ∈ architecture.resources) :
    (architecture.extended rule parent ids).parentId? resource.id = resource.parent? := by
  have relinked : relink rule parent ids resource ∈
      (architecture.extended rule parent ids).resources :=
    (mem_extended_iff _).2 (Or.inl ⟨resource, member, rfl⟩)
  have isParent := parentId?_of_mem distinct relinked
  rw [id_relink] at isParent
  rw [isParent, Resource.parent?, Resource.parent?, parents_relink]

theorem parentId?_extended_of_new
    (distinct : (architecture.extended rule parent ids).ids.Nodup)
    {id : String}
    (isNew : id ∈ ids) :
    (architecture.extended rule parent ids).parentId? id =
      if rule.isAttached then some parent else none := by
  have added : synthesize rule parent id ∈ (architecture.extended rule parent ids).resources :=
    (mem_extended_iff _).2 (Or.inr ⟨id, isNew, rfl⟩)
  have isParent := parentId?_of_mem distinct added
  refine isParent.trans ?_
  rw [Resource.parent?, synthesize]
  split_ifs <;> rfl

/-- What is added is new, so an addition keeps an architecture well linked. -/
theorem WellLinked.extended
    (wellLinked : architecture.WellLinked)
    (rule : HiddenRule)
    (addable : Addable architecture parent ids) :
    (architecture.extended rule parent ids).WellLinked := by
  have distinct := addable.distinct_extended wellLinked.distinct rule
  have closed := wellLinked.closed.extended rule addable
  constructor
  case distinct => exact distinct
  case closed => exact closed
  case oneParent =>
    intro resource member
    rcases (mem_extended_iff resource).1 member with ⟨old, oldMember, rfl⟩ | ⟨new, _, rfl⟩
    · rw [parents_relink]
      exact wellLinked.oneParent old oldMember
    · rw [synthesize]
      split_ifs <;> simp
  case contentsOnce =>
    intro resource member
    rcases (mem_extended_iff resource).1 member with ⟨old, oldMember, rfl⟩ | ⟨new, _, rfl⟩
    · have relinked : (relink rule parent ids old).children = old.children ++ _ :=
        linksBy_relink old true
      have before := wellLinked.contentsOnce old oldMember
      rw [relinked]
      split_ifs
      · refine before.append addable.apart fun id linked new => addable.fresh id new ?_
        exact wellLinked.closed old oldMember .child id linked
      · rw [List.append_nil]
        exact before
    · exact List.nodup_nil
  case bothEnds =>
    rw [bothEnds_iff_links distinct closed]
    intro container content
    have before := (bothEnds_iff_links wellLinked.distinct wellLinked.closed).1
      wellLinked.bothEnds container content
    rw [mem_links_extended addable.parentKnown, mem_links_extended addable.parentKnown, before]
    -- A rule adds the two ends of a containment under the same condition.
    exact Iff.rfl
  case rooted =>
    have old : ∀ id ∈ architecture.ids,
        Rooted (architecture.extended rule parent ids).parentId? id :=
      fun id => wellLinked.rooted_of_same fun resource => parentId?_extended_of_mem distinct
    intro id member
    rw [ids_extended, List.mem_append] at member
    rcases member with before | isNew
    · exact old id before
    · have isParent := parentId?_extended_of_new distinct isNew
      split_ifs at isParent
      · exact Rooted.step isParent (old parent addable.parentKnown)
      · exact Rooted.root isParent

/-- Whether or not a rule fails, an expansion leaves an architecture well linked. -/
theorem WellLinked.expand
    (wellLinked : architecture.WellLinked)
    (catalog : Catalog) :
    (expand catalog architecture).architecture.WellLinked := by
  refine expand_induction WellLinked ?_ catalog wellLinked
  intro architecture rule parent ids wellLinked addable
  exact (wellLinked.extended rule addable).of_perm (addChildren_perm wellLinked.distinct)

/-! ## Reachable architectures -/

theorem WellLinked.sort
    (wellLinked : architecture.WellLinked)
    {sorted : Architecture}
    (succeeds : architecture.sort = .ok sorted) :
    sorted.WellLinked :=
  wellLinked.of_perm (wellLinked.closed.perm_of_sort wellLinked.distinct succeeds)

theorem ofGraph_eq_ok_iff
    {catalog : Catalog}
    {graph : Graph}
    {provider : Provider}
    {region : String} :
    ofGraph catalog graph provider region = .ok architecture ↔
      checkTypes catalog provider graph.nodes = .ok () ∧
      (expand catalog (drawn graph provider region)).failure = none ∧
      (expand catalog (drawn graph provider region)).architecture = architecture := by
  rw [ofGraph]
  cases checkTypes catalog provider graph.nodes with
  | error error => simp
  | ok _ => cases failed : (expand catalog (drawn graph provider region)).failure <;> simp [failed]

theorem wellLinked_of_ofGraph
    {catalog : Catalog}
    {graph : Graph}
    {provider : Provider}
    {region : String}
    (forest : graph.IsForest)
    (made : ofGraph catalog graph provider region = .ok architecture) :
    architecture.WellLinked := by
  obtain ⟨_, _, rfl⟩ := ofGraph_eq_ok_iff.1 made
  exact (wellLinked_drawn forest).expand catalog

/-- What can become of a diagram that is accepted. -/
inductive Reachable : Architecture → Prop
  /-- The graph of an accepted diagram makes an architecture. -/
  | made
      {diagram : Diagram} {graph : Graph} {catalog : Catalog} {provider : Provider}
      {region : String} {architecture : Architecture} :
      diagram.toGraph = .ok graph →
      ofGraph catalog graph provider region = .ok architecture →
      Reachable architecture
  /-- An expansion, whether it is completed or a rule stops it. -/
  | expanded {architecture : Architecture} (catalog : Catalog) :
      Reachable architecture → Reachable (expand catalog architecture).architecture
  /-- A sort that succeeds. -/
  | sorted {architecture sorted : Architecture} :
      Reachable architecture → architecture.sort = .ok sorted → Reachable sorted

/-- Whatever becomes of an accepted diagram is well linked. -/
theorem wellLinked_of_reachable
    {architecture : Architecture}
    (reachable : Reachable architecture) :
    architecture.WellLinked := by
  induction reachable with
  | made resolved made => exact wellLinked_of_ofGraph (Diagram.isForest_of_toGraph resolved) made
  | expanded catalog _ inductionHypothesis => exact inductionHypothesis.expand catalog
  | sorted _ succeeds inductionHypothesis => exact inductionHypothesis.sort succeeds

/-- Networks need gateways, and servers need what the catalogue does not know. -/
def interrupting : Catalog :=
  Catalog.empty
    |>.register (.regional "Network" .networking "network" .aws)
      [{ parentType := "Network", childType := "Gateway", quantity := "", isAttached := true }]
    |>.register (.regional "Gateway" .networking "gateway" .aws) []
    |>.register (.regional "Server" .compute "server" .aws)
      [{ parentType := "Server", childType := "Disk", quantity := "" }]

/-- An expansion that a rule stops leaves the gateway it has added, and is well linked. -/
theorem wellLinked_of_stopped_expansion :
    ∃ made, Reachable made ∧
      (expand interrupting made).failure.isSome = true ∧
      (expand interrupting made).architecture.ids = ["net", "net-gateway-1", "web", "db"] ∧
      (expand interrupting made).architecture.WellLinked := by
  have reachable : ∃ made, Reachable made ∧
      (expand interrupting made).failure.isSome = true ∧
      (expand interrupting made).architecture.ids = ["net", "net-gateway-1", "web", "db"] :=
    ⟨_, @Reachable.made Diagram.network _ { interrupting with rules := [] } .aws "" _ rfl rfl,
      rfl, rfl⟩
  obtain ⟨made, isReachable, stopped, ids⟩ := reachable
  exact ⟨made, isReachable, stopped, ids,
    wellLinked_of_reachable (Reachable.expanded interrupting isReachable)⟩

end CloudPlan.Architecture
