import CloudPlan.Proofs.Architecture.Session

/-!
# Taking additions away again

What an expansion adds has new ids, and nothing that was there is changed but for links to
it.  So an architecture whose links lead somewhere comes back when the additions are taken
away together with the links that name them.  The additions have no metadata, contents or
dependencies of their own.
-/

namespace CloudPlan

/-- A resource with those contents and dependencies that lead to kept ids. -/
def Resource.keeping (kept : String → Bool) (resource : Resource) : Resource :=
  { resource with
    children := resource.children.filter kept
    dependsOn := resource.dependsOn.filter (kept ·.target) }

namespace Architecture

variable {old new architecture : Architecture} {catalog : Catalog} {rule : HiddenRule}
  {parent : String} {ids : List String} {kept other : String → Bool}

/-- The resources of kept ids, with those contents and dependencies that lead to kept ids. -/
def keeping (architecture : Architecture) (kept : String → Bool) : Architecture :=
  { architecture with
    resources := (architecture.resources.filter (kept ·.id)).map (·.keeping kept) }

/-! ## Keeping -/

/-- What is kept depends on the ids that there are, and on those that links lead to. -/
theorem keeping_congr
    (closed : architecture.Closed)
    (same : ∀ id ∈ architecture.ids, kept id = other id) :
    architecture.keeping kept = architecture.keeping other := by
  have sameResources : architecture.resources.filter (kept ·.id) =
      architecture.resources.filter (other ·.id) :=
    List.filter_congr fun resource member => same _ (id_mem_ids member)
  rw [keeping, keeping, sameResources]
  congr 1
  refine List.map_congr_left fun resource isKept => ?_
  have member := List.mem_of_mem_filter isKept
  have sameChildren : resource.children.filter kept = resource.children.filter other :=
    List.filter_congr fun id linked => same id (closed resource member .child id linked)
  have sameDependencies : resource.dependsOn.filter (kept ·.target) =
      resource.dependsOn.filter (other ·.target) :=
    List.filter_congr fun dependency linked =>
      same _ (closed resource member .dependency _ (List.mem_map_of_mem linked))
  rw [Resource.keeping, Resource.keeping, sameChildren, sameDependencies]

theorem keeping_true (architecture : Architecture) :
    architecture.keeping (fun _ => true) = architecture := by
  have unchanged : ∀ resource : Resource, resource.keeping (fun _ => true) = resource := by
    intro resource
    rw [Resource.keeping, List.filter_true, List.filter_true]
  rw [keeping, List.filter_true, List.map_congr_left fun resource _ => unchanged resource,
    List.map_id']

theorem keeping_linkTo
    (notKept : ∀ id ∈ ids, kept id = false)
    (resource : Resource) :
    (linkTo rule ids resource).keeping kept = resource.keeping kept := by
  have gone : ids.filter kept = [] := List.filter_eq_nil_iff.2 (by simpa using notKept)
  unfold linkTo
  split_ifs
  · simp [Resource.keeping, gone]
  · simpa [Resource.keeping, List.filter_map, Function.comp_def] using notKept

theorem keeping_modifyFirst_linkTo
    (notKept : ∀ id ∈ ids, kept id = false)
    (rule : HiddenRule)
    (parent : String)
    (resources : List Resource) :
    ((modifyFirst parent (linkTo rule ids) resources).filter (kept ·.id)).map (·.keeping kept) =
      (resources.filter (kept ·.id)).map (·.keeping kept) := by
  induction resources with
  | nil => rfl
  | cons resource rest inductionHypothesis =>
      rw [modifyFirst]
      split_ifs
      · rw [List.filter_cons, List.filter_cons, id_linkTo]
        split_ifs
        · rw [List.map_cons, List.map_cons, keeping_linkTo notKept]
        · rfl
      · rw [List.filter_cons, List.filter_cons]
        split_ifs
        · rw [List.map_cons, List.map_cons, inductionHypothesis]
        · exact inductionHypothesis

/-- Additions under ids that are not kept make no difference. -/
theorem keeping_addChildren
    (notKept : ∀ id ∈ ids, kept id = false) :
    (addChildren architecture rule parent ids).keeping kept = architecture.keeping kept := by
  obtain ⟨front, back, parts, inserted⟩ := exists_insertAfter_eq parent
    (ids.map (synthesize rule parent)) (modifyFirst parent (linkTo rule ids) architecture.resources)
  have gone : (ids.map (synthesize rule parent)).filter (kept ·.id) = [] := by
    rw [List.filter_eq_nil_iff]
    intro resource member
    obtain ⟨id, isNew, rfl⟩ := List.mem_map.1 member
    simpa [synthesize, Resource.ofType] using notKept id isNew
  have unlinked := keeping_modifyFirst_linkTo notKept rule parent architecture.resources
  rw [parts] at unlinked
  rw [keeping, keeping, ← unlinked]
  change { architecture with resources := ((insertAfter _ _ _).filter _).map _ } = _
  rw [inserted, List.filter_append, List.filter_append, gone, List.append_nil, List.filter_append]

/-! ## Additions -/

/-- A resource that a rule has added: it has nothing of its own, and its type is known. -/
structure Added (catalog : Catalog) (resource : Resource) : Prop where
  /-- It is marked. -/
  synthesized : resource.synthesized = true
  /-- It has no metadata. -/
  config : resource.config = []
  /-- It contains nothing. -/
  children : resource.children = []
  /-- It depends on nothing. -/
  dependsOn : resource.dependsOn = []
  /-- Its type is known. -/
  known : ∃ type, catalog.resolve resource.typeName = .ok type

theorem added_of_missingIds
    (missing : missingIds catalog architecture rule parent = .ok ids)
    {id : String}
    (isNew : id ∈ ids) :
    Added catalog (synthesize rule parent id) := by
  obtain ⟨_, _, _, _, wants⟩ := wants_of_missingIds missing isNew
  exact {
    synthesized := rfl
    config := rfl
    children := rfl
    dependsOn := rfl
    known := (wantedCount_eq_some_iff.1 wants).2.2 }

/-- One architecture has come out of another, and nothing has happened but that resources were
added and linked to. -/
structure OnlyAdds (catalog : Catalog) (old new : Architecture) : Prop where
  /-- No two resources have the same id. -/
  distinct : new.ids.Nodup
  /-- Links lead to resources. -/
  closed : new.Closed
  /-- What was there is there. -/
  ids : old.ids ⊆ new.ids
  /-- The old ids and the links that lead to them are those of the old architecture. -/
  kept : new.keeping (· ∈ old.ids) = old
  /-- What has come has nothing of its own. -/
  added : ∀ resource ∈ new.resources, resource.id ∉ old.ids → Added catalog resource

namespace OnlyAdds

theorem refl
    (distinct : architecture.ids.Nodup)
    (closed : architecture.Closed) :
    OnlyAdds catalog architecture architecture where
  distinct := distinct
  closed := closed
  ids := List.Subset.refl _
  kept := by
    have all : architecture.keeping (· ∈ architecture.ids) = architecture.keeping (fun _ => true) :=
      keeping_congr closed fun id member => by simpa using member
    exact all.trans (keeping_true architecture)
  added resource member isNew := absurd (id_mem_ids member) isNew

/-- A rule adds to what was added before, for a resource that was there from the start. -/
theorem addition
    (adds : OnlyAdds catalog old new)
    (wasThere : parent ∈ old.ids)
    (missing : missingIds catalog new rule parent = .ok ids) :
    OnlyAdds catalog old (addChildren new rule parent ids) := by
  have addable := addable_of_missingIds missing
  have resources : (addChildren new rule parent ids).resources.Perm
      (new.extended rule parent ids).resources := addChildren_perm adds.distinct
  constructor
  case distinct => exact addable.distinct_addChildren adds.distinct rule
  case closed => exact (adds.closed.extended rule addable).of_perm resources
  case ids => exact List.Subset.trans adds.ids ids_sublist_addChildren.subset
  case kept =>
    rw [keeping_addChildren, adds.kept]
    intro id isNew
    simpa using fun wasThere => addable.fresh id isNew (adds.ids wasThere)
  case added =>
    intro resource member isNew
    rcases (mem_addChildren_iff rule parent ids adds.distinct resource).1 member with
      ⟨before, beforeMember, rfl⟩ | ⟨id, isAdded, rfl⟩
    · rw [id_relink] at isNew
      have notParent : before.id ≠ parent := fun isParent => isNew (isParent ▸ wasThere)
      rw [relink, if_neg notParent]
      exact adds.added before beforeMember isNew
    · exact added_of_missingIds missing isAdded

end OnlyAdds

/-- Whether or not a rule fails, an expansion only adds. -/
theorem onlyAdds_expand
    (distinct : architecture.ids.Nodup)
    (closed : architecture.Closed)
    (catalog : Catalog) :
    OnlyAdds catalog architecture (expand catalog architecture).architecture := by
  refine applyRules_induction (OnlyAdds catalog architecture) catalog _ ?_ (.refl distinct closed)
  intro current rule parent ids adds isDue missing
  exact adds.addition (known_of_mem_dueRules isDue) missing

/-- The ids that have come into an architecture. -/
def newIds (old new : Architecture) : List String :=
  new.ids.filter (· ∉ old.ids)

/-- What has only been added to comes back when the additions are taken away. -/
theorem OnlyAdds.restored
    (adds : OnlyAdds catalog old new) :
    new.keeping (· ∉ newIds old new) = old := by
  have same : ∀ id ∈ new.ids, decide (id ∉ newIds old new) = decide (id ∈ old.ids) := by
    intro id member
    simp [newIds, member]
  rw [keeping_congr adds.closed same, adds.kept]

/-- What is synthesized for a graph has no metadata. -/
theorem config_eq_nil_of_ofGraph
    {graph : Graph}
    {provider : Provider}
    {region : String}
    (forest : graph.IsForest)
    (made : ofGraph catalog graph provider region = .ok architecture)
    {resource : Resource}
    (member : resource ∈ architecture.resources)
    (synthesized : resource.synthesized = true) :
    resource.config = [] := by
  obtain ⟨_, _, rfl⟩ := ofGraph_eq_ok_iff.1 made
  have wellLinked : (drawn graph provider region).WellLinked := wellLinked_drawn forest
  have adds := onlyAdds_expand wellLinked.distinct wellLinked.closed catalog
  by_cases wasThere : resource.id ∈ (drawn graph provider region).ids
  · have isKept : resource.keeping (· ∈ (drawn graph provider region).ids) ∈
        (drawn graph provider region).resources := by
      rw [← congrArg Architecture.resources adds.kept]
      exact List.mem_map_of_mem (List.mem_filter.2 ⟨member, decide_eq_true wasThere⟩)
    obtain ⟨node, -, isDrawn⟩ := List.mem_map.1 isKept
    have notSynthesized : resource.synthesized = false :=
      (congrArg Resource.synthesized isDrawn).symm
    rw [notSynthesized] at synthesized
    contradiction
  · exact (adds.added resource member wasThere).config

end Architecture

end CloudPlan
