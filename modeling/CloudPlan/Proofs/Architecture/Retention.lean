import CloudPlan.Proofs.Architecture.Synthesis

/-!
# What ids lead to

An id leads to the first resource that has it.  What a rule adds has new ids, so every id
goes on leading to the resource that it has led to, which has grown at most.  Links lose
nothing by that: a rule that finds linked what it wants keeps finding it.  None of this
needs ids that are given once or links that lead somewhere.
-/

namespace CloudPlan

/-- A resource as it was, but that it may have gained contents and dependencies. -/
structure Resource.GrowsTo (old new : Resource) : Prop where
  /-- It keeps its id. -/
  id : new.id = old.id
  /-- It keeps its type. -/
  typeName : new.typeName = old.typeName
  /-- It keeps its metadata. -/
  config : new.config = old.config
  /-- It keeps its containers. -/
  parents : new.parents = old.parents
  /-- Its contents come first. -/
  children : old.children <+: new.children
  /-- Its dependencies come first. -/
  targets : old.targets <+: new.targets

namespace Resource.GrowsTo

variable {old middle new : Resource}

theorem refl (resource : Resource) : resource.GrowsTo resource :=
  ⟨rfl, rfl, rfl, rfl, List.prefix_refl _, List.prefix_refl _⟩

theorem trans (first : old.GrowsTo middle) (second : middle.GrowsTo new) : old.GrowsTo new where
  id := second.id.trans first.id
  typeName := second.typeName.trans first.typeName
  config := second.config.trans first.config
  parents := second.parents.trans first.parents
  children := first.children.trans second.children
  targets := first.targets.trans second.targets

theorem linksBy_prefix
    (growth : old.GrowsTo new)
    (attached : Bool) :
    old.linksBy attached <+: new.linksBy attached := by
  cases attached
  · exact growth.targets
  · exact growth.children

end Resource.GrowsTo

namespace Architecture

variable {old middle new architecture : Architecture} {catalog : Catalog} {rule : HiddenRule}
  {parent : String} {ids : List String}

theorem growsTo_relink (rule : HiddenRule) (parent : String) (ids : List String)
    (resource : Resource) :
    resource.GrowsTo (relink rule parent ids resource) := by
  unfold relink linkTo
  split_ifs
  · exact { Resource.GrowsTo.refl resource with children := List.prefix_append _ _ }
  · refine { Resource.GrowsTo.refl resource with targets := ?_ }
    rw [Resource.targets, Resource.targets, List.map_append]
    exact List.prefix_append _ _
  · exact .refl resource

/-! ## Looking up -/

theorem find?_modifyFirst_linkTo (wanted : String) (resources : List Resource) :
    (modifyFirst parent (linkTo rule ids) resources).find? (·.id == wanted) =
      (resources.find? (·.id == wanted)).map (relink rule parent ids) := by
  induction resources with
  | nil => rfl
  | cons resource rest inductionHypothesis =>
      by_cases isFirst : resource.id = wanted
      · have relinked : modifyFirst parent (linkTo rule ids) (resource :: rest) =
            relink rule parent ids resource ::
              if resource.id = parent then rest else modifyFirst parent (linkTo rule ids) rest := by
          rw [modifyFirst, relink]
          split_ifs <;> rfl
        rw [relinked, List.find?_cons_of_pos (by simp [isFirst]),
          List.find?_cons_of_pos (by simp [isFirst])]
        rfl
      · rw [List.find?_cons_of_neg (by simp [isFirst]), modifyFirst]
        split_ifs with isParent
        · -- What is found behind the parent has another id, and is not linked to anything.
          have others : ∀ other ∈ rest.find? (·.id == wanted),
              relink rule parent ids other = id other := by
            intro other found
            have isWanted : other.id = wanted := by simpa using List.find?_some found
            refine if_neg fun otherIsParent => isFirst ?_
            exact (isParent.trans otherIsParent.symm).trans isWanted
          rw [List.find?_cons_of_neg (by simp [isFirst])]
          rw [Option.map_congr others, Option.map_id_apply]
        · rw [List.find?_cons_of_neg (by simp [isFirst]), inductionHypothesis]

/-- An old id leads to what it has led to, linked to what is added. -/
theorem resource?_addChildren_of_not_mem
    {id : String}
    (isOld : id ∉ ids) :
    (addChildren architecture rule parent ids).resource? id =
      (architecture.resource? id).map (relink rule parent ids) := by
  obtain ⟨front, back, parts, inserted⟩ := exists_insertAfter_eq parent
    (ids.map (synthesize rule parent)) (modifyFirst parent (linkTo rule ids) architecture.resources)
  have notAdded : (ids.map (synthesize rule parent)).find? (·.id == id) = none := by
    rw [List.find?_eq_none]
    intro resource member
    obtain ⟨new, isNew, rfl⟩ := List.mem_map.1 member
    have different : new ≠ id := fun same => isOld (same ▸ isNew)
    simpa [synthesize, Resource.ofType] using different
  rw [resource?, resource?, ← find?_modifyFirst_linkTo, parts]
  change (insertAfter _ _ _).find? _ = _
  rw [inserted, List.find?_append, List.find?_append, notAdded, Option.or_none, List.find?_append]

/-- Where an id leads to a resource, it goes on leading to it. -/
theorem resource?_addChildren_of_found
    (rule : HiddenRule)
    (addable : Addable architecture parent ids)
    {id : String}
    {resource : Resource}
    (found : architecture.resource? id = some resource) :
    (addChildren architecture rule parent ids).resource? id =
      some (relink rule parent ids resource) := by
  have isOld : id ∉ ids := fun isNew => addable.fresh id isNew (mem_ids_of_resource? found)
  rw [resource?_addChildren_of_not_mem isOld, found]
  rfl

/-- A new id leads to what is added under it. -/
theorem resource?_addChildren_of_mem
    {id : String}
    (isNew : id ∈ ids)
    (isFresh : id ∉ architecture.ids) :
    (addChildren architecture rule parent ids).resource? id =
      some (synthesize rule parent id) := by
  obtain ⟨front, back, parts, inserted⟩ := exists_insertAfter_eq parent
    (ids.map (synthesize rule parent)) (modifyFirst parent (linkTo rule ids) architecture.resources)
  have notBefore : front.find? (·.id == id) = none := by
    rw [find?_name_eq_none_iff]
    intro member
    have known : id ∈ (front ++ back).map (·.id) := by
      rw [List.map_append]
      exact List.mem_append_left _ member
    rw [← parts, map_id_modifyFirst_linkTo] at known
    exact isFresh known
  obtain ⟨first, found⟩ : ∃ first, (ids.map (synthesize rule parent)).find? (·.id == id) =
      some first := by
    rw [← Option.isSome_iff_exists, List.find?_isSome]
    exact ⟨_, List.mem_map_of_mem isNew, beq_self_eq_true id⟩
  obtain ⟨new, _, rfl⟩ := List.mem_map.1 (List.mem_of_find?_eq_some found)
  obtain rfl : new = id := by simpa [synthesize, Resource.ofType] using List.find?_some found
  rw [resource?]
  change (insertAfter _ _ _).find? _ = _
  rw [inserted, List.append_assoc, List.find?_append, notBefore, Option.none_or, List.find?_append,
    found, Option.some_or]

/-! ## Retention -/

/-- Every id that leads to a resource goes on leading to it, as it was or grown. -/
def Retains (old new : Architecture) : Prop :=
  ∀ id resource, old.resource? id = some resource →
    ∃ grown, new.resource? id = some grown ∧ resource.GrowsTo grown

theorem Retains.refl (architecture : Architecture) : architecture.Retains architecture :=
  fun _ resource found => ⟨resource, found, .refl resource⟩

theorem Retains.trans (first : old.Retains middle) (second : middle.Retains new) :
    old.Retains new := by
  intro id resource found
  obtain ⟨halfGrown, halfFound, half⟩ := first id resource found
  obtain ⟨grown, grownFound, rest⟩ := second id halfGrown halfFound
  exact ⟨grown, grownFound, half.trans rest⟩

/-- An addition under new ids hides no resource. -/
theorem retains_addChildren
    (rule : HiddenRule)
    (addable : Addable architecture parent ids) :
    architecture.Retains (addChildren architecture rule parent ids) :=
  fun _ resource found =>
    ⟨_, resource?_addChildren_of_found rule addable found, growsTo_relink rule parent ids resource⟩

/-- Rules that are applied hide no resource, whether or not one of them fails. -/
theorem retains_applyRules
    (expansion : Expansion)
    (catalog : Catalog)
    (due : List (String × HiddenRule)) :
    expansion.architecture.Retains (applyRules catalog expansion due).architecture := by
  refine applyRules_induction expansion.architecture.Retains catalog due ?_ (.refl _)
  intro architecture rule parent ids retains _ missing
  exact retains.trans (retains_addChildren rule (addable_of_missingIds missing))

/-! ## Counting links -/

theorem typeName_of_retains
    (retains : old.Retains new)
    {id typeName : String}
    (isType : (old.resource? id).map (·.typeName) = some typeName) :
    (new.resource? id).map (·.typeName) = some typeName := by
  obtain ⟨resource, found, rfl⟩ := Option.map_eq_some_iff.1 isType
  obtain ⟨grown, grownFound, growth⟩ := retains id resource found
  rw [grownFound, Option.map_some, growth.typeName]

/-- How many of some ids lead to resources of a type. -/
def typedCount (architecture : Architecture) (typeName : String) (ids : List String) : Nat :=
  ids.countP fun id => ((architecture.resource? id).map (·.typeName)) == some typeName

theorem linkedCount_eq_typedCount (rule : HiddenRule) (resource : Resource) :
    linkedCount architecture rule resource =
      typedCount architecture rule.childType (resource.linksBy rule.isAttached) :=
  rfl

theorem typedCount_append (typeName : String) (left right : List String) :
    typedCount architecture typeName (left ++ right) =
      typedCount architecture typeName left + typedCount architecture typeName right :=
  List.countP_append

theorem typedCount_le_of_retains
    (retains : old.Retains new)
    (typeName : String)
    (ids : List String) :
    typedCount old typeName ids ≤ typedCount new typeName ids := by
  apply List.countP_mono_left
  intro id _ isType
  exact beq_iff_eq.2 (typeName_of_retains retains (beq_iff_eq.1 isType))

/-- A resource that grows loses no links. -/
theorem linkedCount_le_of_retains
    (retains : old.Retains new)
    {resource grown : Resource}
    (growth : resource.GrowsTo grown)
    (rule : HiddenRule) :
    linkedCount old rule resource ≤ linkedCount new rule grown := by
  obtain ⟨more, linked⟩ := growth.linksBy_prefix rule.isAttached
  rw [linkedCount_eq_typedCount, linkedCount_eq_typedCount, ← linked, typedCount_append]
  exact (typedCount_le_of_retains retains _ _).trans (Nat.le_add_right _ _)

/-- Where a condition decides for all members of a list, it decides on their count. -/
theorem countP_eq_ite
    {α : Type}
    {members : List α}
    {holds : α → Bool}
    {condition : Prop}
    [Decidable condition]
    (same : ∀ member ∈ members, holds member = true ↔ condition) :
    members.countP holds = if condition then members.length else 0 := by
  split_ifs with always
  · exact List.countP_eq_length.2 fun member isMember => (same member isMember).2 always
  · exact List.countP_eq_zero.2 fun member isMember held => always ((same member isMember).1 held)

/-- All that a rule adds is of its type. -/
theorem typedCount_added
    (addable : Addable architecture parent ids)
    (typeName : String) :
    typedCount (addChildren architecture rule parent ids) typeName ids =
      if rule.childType = typeName then ids.length else 0 := by
  apply countP_eq_ite
  intro id isNew
  rw [resource?_addChildren_of_mem isNew (addable.fresh id isNew)]
  exact beq_iff_eq.trans Option.some_inj

/-! ## What is missing -/

/-- Of enough numbers as many are free as are wanted. -/
theorem length_freshIds (taken : List String) (parent slug : String) (wanted : Nat) :
    (freshIds taken parent slug wanted).length = wanted := by
  rw [freshIds, List.length_take]
  generalize isCandidates : (List.range (taken.length + wanted)).map
    (fun number => childId parent slug (number + 1)) = candidates
  have apart : candidates.Nodup := isCandidates ▸ nodup_candidates parent slug _
  have occupied : (candidates.filter (· ∈ taken)).length ≤ taken.length := by
    refine ((apart.filter _).subperm ?_).length_le
    intro id member
    simpa using List.of_mem_filter member
  have all : candidates.length = taken.length + wanted := by
    rw [← isCandidates, List.length_map, List.length_range]
  have split := List.length_eq_length_filter_add (l := candidates) (· ∈ taken)
  simp only [← decide_not] at split
  omega

/-- Nothing is missing exactly when a rule finds linked as many resources as it wants. -/
theorem missingIds_eq_nil_iff :
    missingIds catalog architecture rule parent = .ok [] ↔
      ∃ resource, architecture.resource? parent = some resource ∧
        ∃ wanted, wantedCount catalog rule resource.config = .ok wanted ∧
          wanted.getD 0 ≤ linkedCount architecture rule resource := by
  simp only [missingIds_eq_ok_iff, ← List.length_eq_zero_iff, length_freshIds,
    Nat.sub_eq_zero_iff_le]

/-- What a rule does not miss it does not come to miss. -/
theorem nothing_missing_of_retains
    (retains : old.Retains new)
    (nothing : missingIds catalog old rule parent = .ok []) :
    missingIds catalog new rule parent = .ok [] := by
  obtain ⟨resource, found, wanted, wants, linked⟩ := missingIds_eq_nil_iff.1 nothing
  obtain ⟨grown, grownFound, growth⟩ := retains parent resource found
  refine missingIds_eq_nil_iff.2 ⟨grown, grownFound, wanted, ?_, ?_⟩
  · rw [growth.config]
    exact wants
  · exact linked.trans (linkedCount_le_of_retains retains growth rule)

/-- A rule that has been applied misses nothing. -/
theorem nothing_missing_addChildren
    (missing : missingIds catalog architecture rule parent = .ok ids) :
    missingIds catalog (addChildren architecture rule parent ids) rule parent = .ok [] := by
  have addable := addable_of_missingIds missing
  obtain ⟨resource, found, wanted, wants, isFresh⟩ := missingIds_eq_ok_iff.1 missing
  have isParent := id_of_resource? found
  have growth := growsTo_relink rule parent ids resource
  refine missingIds_eq_nil_iff.2
    ⟨_, resource?_addChildren_of_found rule addable found, wanted, ?_, ?_⟩
  · rw [growth.config]
    exact wants
  · have length : ids.length = wanted.getD 0 - linkedCount architecture rule resource :=
      isFresh ▸ length_freshIds _ _ _ _
    have kept := typedCount_le_of_retains (retains_addChildren rule addable) rule.childType
      (resource.linksBy rule.isAttached)
    rw [linkedCount_eq_typedCount, linksBy_relink, if_pos ⟨isParent, rfl⟩, typedCount_append,
      typedCount_added addable, if_pos rfl]
    rw [linkedCount_eq_typedCount] at length
    omega

/-- Rules that are applied without a failure miss nothing in the end. -/
theorem nothing_missing_applyRules
    {due : List (String × HiddenRule)}
    {expansion : Expansion}
    (completes : (applyRules catalog expansion due).failure = none) :
    ∀ next ∈ due,
      missingIds catalog (applyRules catalog expansion due).architecture next.2 next.1 =
        .ok [] := by
  induction due generalizing expansion with
  | nil => simp
  | cons next rest inductionHypothesis =>
      obtain ⟨ids, missing⟩ := exists_missingIds_of_completes completes
      rw [applyRules_cons missing] at completes ⊢
      rintro next (_ | ⟨_, isLater⟩)
      -- What the first rule finds stays, since the rules after it only add.
      · exact nothing_missing_of_retains (retains_applyRules ⟨_, _, none⟩ catalog rest)
          (nothing_missing_addChildren missing)
      · exact inductionHypothesis completes next isLater

end Architecture

end CloudPlan
