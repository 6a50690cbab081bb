import CloudPlan.Architecture.Expansion
import CloudPlan.Proofs.Architecture.Precedence
import CloudPlan.Proofs.Outcome
import Std.Data.String.ToNat

/-!
# What a hidden rule adds

A rule adds resources under ids that are new and different.  Up to their order the
resources are then the old ones, with the parent linked to the new ones, and the new
ones, each linked to the parent at most.  Whatever such a step keeps, an expansion
keeps, also one that a rule stops.
-/

namespace CloudPlan

/-- The ids that a resource is linked to as a container, or else as a dependent. -/
def Resource.linksBy (attached : Bool) (resource : Resource) : List String :=
  if attached then resource.children else resource.targets

namespace Architecture

variable {architecture : Architecture} {rule : HiddenRule} {parent : String}
  {ids : List String}

/-! ## New ids -/

theorem childId_injective (parent slug : String) :
    Function.Injective (childId parent slug) := by
  intro first second equal
  have texts : (childId parent slug first).toList = (childId parent slug second).toList := by
    rw [equal]
  simp only [childId, String.toList_append, List.append_cancel_left_eq] at texts
  exact Nat.repr_injective (String.toList_inj.1 texts)

theorem nodup_candidates (parent slug : String) (count : Nat) :
    ((List.range count).map fun number => childId parent slug (number + 1)).Nodup := by
  apply List.nodup_range.map
  intro first second equal
  exact Nat.succ.inj (childId_injective parent slug equal)

theorem nodup_freshIds (taken : List String) (parent slug : String) (wanted : Nat) :
    (freshIds taken parent slug wanted).Nodup :=
  ((nodup_candidates parent slug _).filter _).sublist (List.take_sublist _ _)

theorem not_mem_of_mem_freshIds
    {taken : List String}
    {parent slug id : String}
    {wanted : Nat}
    (member : id ∈ freshIds taken parent slug wanted) :
    id ∉ taken := by
  have untaken := List.of_mem_filter (List.mem_of_mem_take member)
  simpa using untaken

/-- Ids under which resources can be added for a parent. -/
structure Addable (architecture : Architecture) (parent : String) (ids : List String) : Prop where
  /-- The parent is a resource. -/
  parentKnown : parent ∈ architecture.ids
  /-- The ids differ from each other. -/
  apart : ids.Nodup
  /-- The ids are not taken. -/
  fresh : ∀ id ∈ ids, id ∉ architecture.ids

/-- What is missing is found by looking the parent up, and by what the rule wants for it. -/
theorem missingIds_eq_ok_iff {catalog : Catalog} :
    missingIds catalog architecture rule parent = .ok ids ↔
      ∃ resource, architecture.resource? parent = some resource ∧
        ∃ wanted, wantedCount catalog rule resource.config = .ok wanted ∧
          freshIds architecture.ids parent (slug rule)
            (wanted.getD 0 - linkedCount architecture rule resource) = ids := by
  rw [missingIds]
  cases architecture.resource? parent with
  | none => simp
  | some resource => simp [map_eq_ok_iff]

/-- The ids of what is missing can be added. -/
theorem addable_of_missingIds
    {catalog : Catalog}
    (missing : missingIds catalog architecture rule parent = .ok ids) :
    Addable architecture parent ids := by
  obtain ⟨resource, found, _, _, rfl⟩ := missingIds_eq_ok_iff.1 missing
  exact {
    parentKnown := mem_ids_of_resource? found
    apart := nodup_freshIds _ _ _ _
    fresh := fun _ => not_mem_of_mem_freshIds }

/-! ## New links -/

/-- A rule adds a link: between the parent and what it contains, from both ends, or from
the parent to what it depends on. -/
def AddsLink (rule : HiddenRule) (parent : String) (ids : List String) (link : Link) : Prop :=
  match link.relation with
  | .child => rule.isAttached = true ∧ link.owner = parent ∧ link.target ∈ ids
  | .parent => rule.isAttached = true ∧ link.target = parent ∧ link.owner ∈ ids
  | .dependency => rule.isAttached = false ∧ link.owner = parent ∧ link.target ∈ ids

/-- A resource, linked to what a rule adds if it is the parent. -/
def relink (rule : HiddenRule) (parent : String) (ids : List String) (resource : Resource) :
    Resource :=
  if resource.id = parent then linkTo rule ids resource else resource

@[simp] theorem id_linkTo (resource : Resource) :
    (linkTo rule ids resource).id = resource.id := by
  unfold linkTo
  split_ifs <;> rfl

@[simp] theorem id_relink (resource : Resource) :
    (relink rule parent ids resource).id = resource.id := by
  unfold relink
  split_ifs
  · exact id_linkTo resource
  · rfl

@[simp] theorem parents_relink (resource : Resource) :
    (relink rule parent ids resource).parents = resource.parents := by
  unfold relink linkTo
  split_ifs <;> rfl

@[simp] theorem synthesized_relink (resource : Resource) :
    (relink rule parent ids resource).synthesized = resource.synthesized := by
  unfold relink linkTo
  split_ifs <;> rfl

/-- Links of one kind are added to the parent by the rules of that kind. -/
theorem linksBy_relink (resource : Resource) (attached : Bool) :
    (relink rule parent ids resource).linksBy attached =
      resource.linksBy attached ++
        if resource.id = parent ∧ rule.isAttached = attached then ids else [] := by
  by_cases isParent : resource.id = parent <;> cases isKind : rule.isAttached <;>
    cases attached <;> simp [relink, linkTo, Resource.linksBy, Resource.targets, isParent, isKind,
      Function.comp_def]

/-- Of the old resources the parent gains the links that do not name it as a container. -/
theorem mem_linked_relink (resource : Resource) (relation : Relation) (id : String) :
    id ∈ (relink rule parent ids resource).linked relation ↔
      id ∈ resource.linked relation ∨
        relation ≠ .parent ∧ AddsLink rule parent ids ⟨resource.id, relation, id⟩ := by
  unfold relink linkTo AddsLink
  by_cases isParent : resource.id = parent <;> by_cases attached : rule.isAttached <;>
    cases relation <;> simp [isParent, attached, Resource.linked, Resource.targets]

/-- What is added has the links that name the parent as its container. -/
theorem mem_linked_synthesize
    {new : String}
    (isNew : new ∈ ids)
    (relation : Relation)
    (id : String) :
    id ∈ (synthesize rule parent new).linked relation ↔
      relation = .parent ∧ AddsLink rule parent ids ⟨new, relation, id⟩ := by
  cases relation
  case parent =>
    by_cases attached : rule.isAttached <;>
      simp [Resource.linked, synthesize, AddsLink, attached, isNew]
  case child => simp [Resource.linked, synthesize, Resource.ofType]
  case dependency => simp [Resource.linked, Resource.targets, synthesize, Resource.ofType]

/-! ## New resources -/

/-- The architecture with what a rule adds, at its end. -/
def extended (architecture : Architecture) (rule : HiddenRule) (parent : String)
    (ids : List String) : Architecture :=
  { architecture with
    resources := architecture.resources.map (relink rule parent ids) ++
      ids.map (synthesize rule parent) }

theorem ids_extended :
    (architecture.extended rule parent ids).ids = architecture.ids ++ ids := by
  simp [Architecture.ids, extended, Function.comp_def, synthesize, Resource.ofType]

theorem mem_extended_iff (resource : Resource) :
    resource ∈ (architecture.extended rule parent ids).resources ↔
      (∃ old ∈ architecture.resources, relink rule parent ids old = resource) ∨
        ∃ id ∈ ids, synthesize rule parent id = resource := by
  rw [extended, List.mem_append, List.mem_map, List.mem_map]

/-- The links of an extended architecture are the old ones and those that the rule adds. -/
theorem mem_links_extended
    (parentKnown : parent ∈ architecture.ids)
    (link : Link) :
    link ∈ (architecture.extended rule parent ids).links ↔
      link ∈ architecture.links ∨ AddsLink rule parent ids link := by
  obtain ⟨owner, relation, target⟩ := link
  constructor
  · intro linkMember
    obtain ⟨resource, member, rfl, linked⟩ := (mem_links_iff _).1 linkMember
    rcases (mem_extended_iff resource).1 member with ⟨old, oldMember, rfl⟩ | ⟨new, isNew, rfl⟩
    · rw [id_relink]
      rcases (mem_linked_relink old relation target).1 linked with before | ⟨_, added⟩
      · exact Or.inl (link_mem_links oldMember relation before)
      · exact Or.inr added
    · obtain ⟨_, added⟩ := (mem_linked_synthesize isNew relation target).1 linked
      exact Or.inr added
  · have relinked (old : Resource) (oldMember : old ∈ architecture.resources)
        (linked : target ∈ (relink rule parent ids old).linked relation) :
        ⟨old.id, relation, target⟩ ∈ (architecture.extended rule parent ids).links := by
      have sameId : (relink rule parent ids old).id = old.id := id_relink old
      rw [← sameId]
      exact link_mem_links ((mem_extended_iff _).2 (Or.inl ⟨old, oldMember, rfl⟩)) relation linked
    rintro (linkMember | added)
    · obtain ⟨old, oldMember, rfl, linked⟩ := (mem_links_iff _).1 linkMember
      exact relinked old oldMember ((mem_linked_relink old relation target).2 (Or.inl linked))
    · by_cases upward : relation = .parent
      · subst upward
        have isNew : owner ∈ ids := added.2.2
        exact link_mem_links ((mem_extended_iff _).2 (Or.inr ⟨owner, isNew, rfl⟩)) _
          ((mem_linked_synthesize isNew _ target).2 ⟨rfl, added⟩)
      · obtain rfl : owner = parent := by
          cases relation <;> simp_all [AddsLink]
        obtain ⟨old, oldMember, rfl⟩ := List.mem_map.1 parentKnown
        exact relinked old oldMember
          ((mem_linked_relink old relation target).2 (Or.inr ⟨upward, added⟩))

/-- What linking does not change in a resource, it does not change in a list of them. -/
theorem map_modifyFirst_linkTo
    {α : Type}
    {feature : Resource → α}
    (kept : ∀ resource, feature (linkTo rule ids resource) = feature resource)
    (resources : List Resource) :
    (modifyFirst parent (linkTo rule ids) resources).map feature = resources.map feature := by
  induction resources with
  | nil => rfl
  | cons resource rest inductionHypothesis =>
      rw [modifyFirst]
      split_ifs
      · rw [List.map_cons, List.map_cons, kept]
      · rw [List.map_cons, List.map_cons, inductionHypothesis]

@[simp] theorem map_id_modifyFirst_linkTo (resources : List Resource) :
    (modifyFirst parent (linkTo rule ids) resources).map (·.id) = resources.map (·.id) :=
  map_modifyFirst_linkTo id_linkTo resources

/-- Where ids are given once, changing the first resource of an id changes all of that id. -/
theorem modifyFirst_eq_map
    {resources : List Resource}
    (distinct : (resources.map (·.id)).Nodup)
    (id : String)
    (change : Resource → Resource) :
    modifyFirst id change resources =
      resources.map fun resource => if resource.id = id then change resource else resource := by
  induction resources with
  | nil => rfl
  | cons resource rest inductionHypothesis =>
      obtain ⟨different, restDistinct⟩ := List.nodup_cons.1 distinct
      rw [modifyFirst, List.map_cons]
      split_ifs with isFirst
      · have unchanged : ∀ other ∈ rest,
            (if other.id = id then change other else other) = other := by
          intro other member
          refine if_neg fun sameId => different ?_
          exact List.mem_map.2 ⟨other, member, sameId.trans isFirst.symm⟩
        rw [List.map_congr_left unchanged, List.map_id']
      · rw [inductionHypothesis restDistinct]

/-- Resources are put in between two parts of a list. -/
theorem exists_insertAfter_eq (id : String) (added resources : List Resource) :
    ∃ front back, resources = front ++ back ∧
      insertAfter id added resources = front ++ added ++ back := by
  induction resources with
  | nil => exact ⟨[], [], rfl, (List.append_nil added).symm⟩
  | cons resource rest inductionHypothesis =>
      rw [insertAfter]
      split_ifs
      · refine ⟨resource :: rest.takeWhile (·.synthesized), rest.dropWhile (·.synthesized), ?_, rfl⟩
        rw [List.cons_append, List.takeWhile_append_dropWhile]
      · obtain ⟨front, back, parts, inserted⟩ := inductionHypothesis
        exact ⟨resource :: front, back, congrArg (resource :: ·) parts,
          congrArg (resource :: ·) inserted⟩

theorem perm_insertAfter (id : String) (added resources : List Resource) :
    (insertAfter id added resources).Perm (resources ++ added) := by
  obtain ⟨front, back, rfl, inserted⟩ := exists_insertAfter_eq id added resources
  rw [inserted, List.append_assoc, List.append_assoc]
  exact List.perm_append_comm.append_left front

/-- Resources that are put in leave the others in their order. -/
theorem sublist_insertAfter (id : String) (added resources : List Resource) :
    resources.Sublist (insertAfter id added resources) := by
  obtain ⟨front, back, rfl, inserted⟩ := exists_insertAfter_eq id added resources
  rw [inserted]
  exact (List.sublist_append_left front added).append (List.Sublist.refl back)

/-- Resources are put in behind the one that they are put in for. -/
theorem pair_sublist_insertAfter
    {added resources : List Resource}
    {id : String}
    (known : id ∈ resources.map (·.id))
    {new : Resource}
    (isNew : new ∈ added) :
    [id, new.id].Sublist ((insertAfter id added resources).map (·.id)) := by
  induction resources with
  | nil => simp at known
  | cons resource rest inductionHypothesis =>
      rw [insertAfter]
      split_ifs with isFirst
      · subst isFirst
        refine List.Sublist.cons_cons _ (List.singleton_sublist.2 ?_)
        exact List.mem_map_of_mem (List.mem_append_left _ (List.mem_append_right _ isNew))
      · rw [List.map_cons, List.mem_cons] at known
        exact (inductionHypothesis (known.resolve_left (Ne.symm isFirst))).cons _

/-- Where ids are given once, adding resources relinks the old ones and adds the new ones. -/
theorem addChildren_perm
    (distinct : architecture.ids.Nodup) :
    (addChildren architecture rule parent ids).resources.Perm
      (architecture.extended rule parent ids).resources := by
  rw [addChildren, modifyFirst_eq_map distinct]
  exact perm_insertAfter _ _ _

/-! ## Whole expansions -/

section Steps

variable {catalog : Catalog} {expansion : Expansion} {next : String × HiddenRule}
  {first rest : List (String × HiddenRule)}

/-- A rule that does not fail adds what it misses, and the others are applied to that. -/
theorem applyRules_cons
    (missing : missingIds catalog expansion.architecture next.2 next.1 = .ok ids)
    (rest : List (String × HiddenRule)) :
    applyRules catalog expansion (next :: rest) =
      applyRules catalog
        { architecture := addChildren expansion.architecture next.2 next.1 ids
          added := expansion.added + ids.length }
        rest := by
  rw [applyRules, missing]

/-- Where no rule fails, the first one does not. -/
theorem exists_missingIds_of_completes
    (completes : (applyRules catalog expansion (next :: rest)).failure = none) :
    ∃ ids, missingIds catalog expansion.architecture next.2 next.1 = .ok ids := by
  rw [applyRules] at completes
  cases missing : missingIds catalog expansion.architecture next.2 next.1 with
  | error error => simp [missing] at completes
  | ok ids => exact ⟨ids, rfl⟩

/-- Where the first rules do not fail, the others are applied to what they lead to. -/
theorem applyRules_append
    (completes : (applyRules catalog expansion first).failure = none)
    (rest : List (String × HiddenRule)) :
    applyRules catalog expansion (first ++ rest) =
      applyRules catalog (applyRules catalog expansion first) rest := by
  induction first generalizing expansion with
  | nil => rfl
  | cons next others inductionHypothesis =>
      obtain ⟨ids, missing⟩ := exists_missingIds_of_completes completes
      rw [applyRules_cons missing] at completes
      rw [List.cons_append, applyRules_cons missing, applyRules_cons missing]
      exact inductionHypothesis completes

/-- Where no rule fails, none of the first ones does. -/
theorem completes_of_append
    (begins : expansion.failure = none)
    (completes : (applyRules catalog expansion (first ++ rest)).failure = none) :
    (applyRules catalog expansion first).failure = none := by
  induction first generalizing expansion with
  | nil => exact begins
  | cons next others inductionHypothesis =>
      rw [List.cons_append] at completes
      obtain ⟨ids, missing⟩ := exists_missingIds_of_completes completes
      rw [applyRules_cons missing] at completes ⊢
      exact inductionHypothesis rfl completes

end Steps

/-- What every addition for a due rule keeps, applying the rules keeps, whether or not one
of them fails. -/
theorem applyRules_induction
    (property : Architecture → Prop)
    (catalog : Catalog)
    (due : List (String × HiddenRule))
    (addition : ∀ architecture rule parent ids, property architecture → (parent, rule) ∈ due →
      missingIds catalog architecture rule parent = .ok ids →
      property (addChildren architecture rule parent ids))
    {expansion : Expansion}
    (holds : property expansion.architecture) :
    property (applyRules catalog expansion due).architecture := by
  induction due generalizing expansion with
  | nil => exact holds
  | cons next rest inductionHypothesis =>
      obtain ⟨parent, rule⟩ := next
      rw [applyRules]
      split
      -- A rule that fails leaves what the rules before it have added.
      next => exact holds
      next ids missing =>
        refine inductionHypothesis ?_
          (addition _ rule parent ids holds List.mem_cons_self missing)
        intro architecture rule parent ids holds isDue
        exact addition architecture rule parent ids holds (List.mem_cons_of_mem _ isDue)

/-- What every addition keeps, an expansion keeps, whether or not a rule fails. -/
theorem expand_induction
    (property : Architecture → Prop)
    (addition : ∀ architecture rule parent ids, property architecture →
      Addable architecture parent ids → property (addChildren architecture rule parent ids))
    (catalog : Catalog)
    (holds : property architecture) :
    property (expand catalog architecture).architecture := by
  refine applyRules_induction property catalog _ ?_ holds
  intro architecture rule parent ids holds _ missing
  exact addition architecture rule parent ids holds (addable_of_missingIds missing)

end Architecture

end CloudPlan
