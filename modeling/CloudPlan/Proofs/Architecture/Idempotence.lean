import CloudPlan.Proofs.Architecture.Reachable
import CloudPlan.Proofs.Architecture.Retention

/-!
# Expanding again

An expansion that is completed leaves nothing missing, and what it adds has no rules of its
own.  So a second one has the same rules to apply, none of them misses anything, and an
addition of nothing changes nothing.  That holds of all architectures, also of those with
ids that are given twice, links that lead nowhere and containers that contain themselves.
-/

namespace CloudPlan.Architecture

variable {architecture settled : Architecture} {catalog : Catalog} {rule : HiddenRule}
  {parent : String} {ids : List String}

/-! ## Adding nothing -/

theorem linkTo_nil (resource : Resource) : linkTo rule [] resource = resource := by
  unfold linkTo
  split_ifs <;> simp

theorem modifyFirst_linkTo_nil (resources : List Resource) :
    modifyFirst parent (linkTo rule []) resources = resources := by
  induction resources with
  | nil => rfl
  | cons resource rest inductionHypothesis =>
      rw [modifyFirst, linkTo_nil, inductionHypothesis, ite_self]

theorem addChildren_nil : addChildren architecture rule parent [] = architecture := by
  obtain ⟨front, back, parts, inserted⟩ := exists_insertAfter_eq parent [] architecture.resources
  rw [addChildren, modifyFirst_linkTo_nil, List.map_nil, inserted, List.append_nil, ← parts]

/-- Where nothing is missing, applying rules changes nothing. -/
theorem applyRules_of_nothing_missing
    {due : List (String × HiddenRule)}
    (nothing : ∀ next ∈ due, missingIds catalog architecture next.2 next.1 = .ok [])
    (added : Nat) :
    applyRules catalog { architecture, added } due = { architecture, added } := by
  induction due with
  | nil => rfl
  | cons next rest inductionHypothesis =>
      obtain ⟨parent, rule⟩ := next
      obtain ⟨firstMisses, restMiss⟩ := List.forall_mem_cons.1 nothing
      rw [applyRules, firstMisses]
      simp only [addChildren_nil, List.length_nil, Nat.add_zero]
      exact inductionHypothesis restMiss

/-! ## Due rules -/

/-- The rules that are due for a resource. -/
def dueFor (catalog : Catalog) (provider : Provider) (resource : Resource) :
    List (String × HiddenRule) :=
  if resource.synthesized then []
  else ((catalog.hiddenRules resource.typeName).filter
    (Provider.covers ·.provider provider)).map (resource.id, ·)

theorem dueRules_eq_flatten :
    dueRules catalog architecture =
      (architecture.resources.map (dueFor catalog architecture.provider)).flatten := by
  rw [dueRules]
  induction architecture.resources with
  | nil => rfl
  | cons resource rest inductionHypothesis =>
      rw [List.map_cons, List.flatten_cons, ← inductionHypothesis, dueFor]
      cases added : resource.synthesized <;> simp [added]

/-- What is added is synthesized, and no rules are due for that. -/
theorem flatten_dueFor_added (provider : Provider) :
    ((ids.map (synthesize rule parent)).map (dueFor catalog provider)).flatten = [] := by
  rw [List.map_map, List.flatten_eq_nil_iff]
  intro due member
  obtain ⟨id, _, rfl⟩ := List.mem_map.1 member
  rfl

theorem dueRules_addChildren :
    dueRules catalog (addChildren architecture rule parent ids) =
      dueRules catalog architecture := by
  obtain ⟨front, back, parts, inserted⟩ := exists_insertAfter_eq parent
    (ids.map (synthesize rule parent)) (modifyFirst parent (linkTo rule ids) architecture.resources)
  have kept : ∀ resource, dueFor catalog architecture.provider (linkTo rule ids resource) =
      dueFor catalog architecture.provider resource := by
    intro resource
    unfold linkTo
    split_ifs <;> rfl
  rw [dueRules_eq_flatten, dueRules_eq_flatten, ← map_modifyFirst_linkTo kept, parts]
  change ((insertAfter _ _ _).map _).flatten = _
  rw [inserted]
  simp only [List.map_append, List.flatten_append, flatten_dueFor_added, List.append_nil]
  rfl

theorem dueRules_applyRules
    (expansion : Expansion)
    (due : List (String × HiddenRule)) :
    dueRules catalog (applyRules catalog expansion due).architecture =
      dueRules catalog expansion.architecture := by
  refine applyRules_induction
    (fun current => dueRules catalog current = dueRules catalog expansion.architecture)
    catalog due ?_ rfl
  intro architecture rule parent ids same _ _
  exact dueRules_addChildren.trans same

/-! ## The second expansion -/

theorem result_eq_ok_iff
    {expansion : Expansion}
    {added : Nat} :
    expansion.result = .ok added ↔ expansion.failure = none ∧ expansion.added = added := by
  rw [Expansion.result]
  cases expansion.failure <;> simp

/-- An expansion that is completed has nothing left to add, and expanding again changes nothing. -/
theorem second_expansion_adds_nothing
    {added : Nat}
    (completes : (expand catalog architecture).result = .ok added)
    (settles : (expand catalog architecture).architecture = settled) :
    (expand catalog settled).result = .ok 0 ∧ (expand catalog settled).architecture = settled := by
  subst settles
  obtain ⟨succeeds, _⟩ := result_eq_ok_iff.1 completes
  have nothing := nothing_missing_applyRules succeeds
  have again : expand catalog (expand catalog architecture).architecture =
      { architecture := (expand catalog architecture).architecture } := by
    rw [expand, expand, dueRules_applyRules]
    exact applyRules_of_nothing_missing nothing 0
  rw [again]
  exact ⟨rfl, rfl⟩

/-- Two networks of one id, the first of which contains itself and a gateway that is not there. -/
def entangled : Architecture where
  provider := .aws
  region := ""
  resources := [
    { Resource.ofType "net" "Network" with
      parents := ["net"]
      children := ["net", "net-gateway-1"] },
    { Resource.ofType "net" "Network" with dependsOn := [⟨"nowhere", .uses, .explicit⟩] }]

/-- The gateway that is not there is added under the id that already stands for it. -/
theorem second_expansion_of_entangled :
    ∃ settled, (expand interrupting entangled).result = .ok 1 ∧
      (expand interrupting entangled).architecture = settled ∧
      settled.ids = ["net", "net-gateway-1", "net"] ∧
      (expand interrupting settled).result = .ok 0 ∧
      (expand interrupting settled).architecture = settled := by
  have completes : (expand interrupting entangled).result = .ok 1 := rfl
  exact ⟨_, completes, rfl, rfl, second_expansion_adds_nothing completes rfl⟩

end CloudPlan.Architecture
