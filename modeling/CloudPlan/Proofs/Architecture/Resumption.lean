import CloudPlan.Proofs.Architecture.Growth
import CloudPlan.Proofs.Architecture.Idempotence
import CloudPlan.Proofs.Catalog.Filing

/-!
# Expansions that are taken up again

A rule that fails leaves what the rules before it have added, and these have nothing more to
add.  So an expansion of what is left gets to the same rule at once.  If the catalogue knows more
types by then it goes on from there, like an expansion that was never stopped, since the rules
that were through do not mind the types that have come.
-/

namespace CloudPlan

/-! ## More types -/

namespace Catalog

variable {catalog larger : Catalog}

/-- One catalogue knows the types that another one knows, and has the same rules. -/
structure KnowsAll (larger catalog : Catalog) : Prop where
  /-- Names stay known. -/
  known : ∀ name, catalog.contains name → larger.contains name
  /-- The rules are the same. -/
  rules : larger.rules = catalog.rules

theorem KnowsAll.refl (catalog : Catalog) : catalog.KnowsAll catalog :=
  ⟨fun _ => id, rfl⟩

theorem KnowsAll.exists_resolve
    (knowsAll : larger.KnowsAll catalog)
    {name : String}
    {type : ResourceType}
    (resolves : catalog.resolve name = .ok type) :
    ∃ type, larger.resolve name = .ok type :=
  exists_resolve_iff.2 (knowsAll.known name (contains_of_resolve resolves))

/-- The catalogue, with types registered that bring no rules. -/
def offering (catalog : Catalog) (types : List ResourceType) : Catalog :=
  types.foldl (·.register · []) catalog

theorem knowsAll_offering (types : List ResourceType) :
    (catalog.offering types).KnowsAll catalog := by
  induction types generalizing catalog with
  | nil => exact .refl catalog
  | cons type rest inductionHypothesis =>
      have rest : (catalog.offering (type :: rest)).KnowsAll (catalog.register type []) :=
        inductionHypothesis
      constructor
      case known =>
        intro name known
        exact rest.known name ((contains_register_iff type []).2 (Or.inr known))
      case rules => exact rest.rules.trans (List.append_nil _)

end Catalog

namespace Architecture

variable {architecture settled stopped : Architecture} {catalog larger : Catalog}
  {rule : HiddenRule} {parent : String} {expansion : Expansion}
  {due done rest : List (String × HiddenRule)} {before : Nat} {error : Error}

section KnowsAll

variable (knowsAll : larger.KnowsAll catalog)
include knowsAll

/-- What a rule wants it wants also when more types are known. -/
theorem wantedCount_of_knowsAll
    {config : Metadata}
    {wanted : Option Nat}
    (wants : wantedCount catalog rule config = .ok wanted) :
    wantedCount larger rule config = .ok wanted := by
  cases wanted with
  | none => exact wantedCount_eq_none_iff.2 (wantedCount_eq_none_iff.1 wants)
  | some count =>
      obtain ⟨applies, counts, _, resolves⟩ := wantedCount_eq_some_iff.1 wants
      exact wantedCount_eq_some_iff.2 ⟨applies, counts, knowsAll.exists_resolve resolves⟩

theorem missingIds_of_knowsAll
    {ids : List String}
    (missing : missingIds catalog architecture rule parent = .ok ids) :
    missingIds larger architecture rule parent = .ok ids := by
  obtain ⟨resource, found, wanted, wants, areIds⟩ := missingIds_eq_ok_iff.1 missing
  exact missingIds_eq_ok_iff.2
    ⟨resource, found, wanted, wantedCount_of_knowsAll knowsAll wants, areIds⟩

/-- Rules that are through do the same when more types are known. -/
theorem applyRules_of_knowsAll
    (completes : (applyRules catalog expansion due).failure = none) :
    applyRules larger expansion due = applyRules catalog expansion due := by
  induction due generalizing expansion with
  | nil => rfl
  | cons next rest inductionHypothesis =>
      obtain ⟨ids, missing⟩ := exists_missingIds_of_completes completes
      rw [applyRules_cons missing] at completes ⊢
      rw [applyRules_cons (missingIds_of_knowsAll knowsAll missing)]
      exact inductionHypothesis completes

theorem dueRules_of_knowsAll : dueRules larger architecture = dueRules catalog architecture := by
  simp only [dueRules, Catalog.hiddenRules, knowsAll.rules]

end KnowsAll

/-! ## Counting -/

/-- What was added before is counted along. -/
theorem applyRules_counting
    (before added : Nat)
    (due : List (String × HiddenRule)) :
    applyRules catalog { architecture, added := before + added } due =
      { applyRules catalog { architecture, added } due with
        added := before + (applyRules catalog { architecture, added } due).added } := by
  induction due generalizing architecture added with
  | nil => rfl
  | cons next rest inductionHypothesis =>
      obtain ⟨parent, rule⟩ := next
      rw [applyRules, applyRules]
      cases missing : missingIds catalog architecture rule parent with
      | error error => rfl
      | ok ids =>
          simp only [Nat.add_assoc]
          exact inductionHypothesis (added + ids.length)

theorem result_counting
    (before : Nat)
    (expansion : Expansion) :
    ({ expansion with added := before + expansion.added } : Expansion).result =
      expansion.result.map (before + ·) := by
  rw [Expansion.result, Expansion.result]
  cases expansion.failure with
  | none => rfl
  | some error => rfl

theorem length_addChildren (ids : List String) :
    (addChildren architecture rule parent ids).resources.length =
      architecture.resources.length + ids.length := by
  have sameIds : ((modifyFirst parent (linkTo rule ids) architecture.resources).map (·.id)).length =
      (architecture.resources.map (·.id)).length :=
    congrArg List.length (map_id_modifyFirst_linkTo architecture.resources)
  rw [List.length_map, List.length_map] at sameIds
  rw [addChildren, (perm_insertAfter _ _ _).length_eq, List.length_append, List.length_map, sameIds]

/-- An expansion has added as many resources as it counts. -/
theorem length_applyRules
    (counted : expansion.architecture.resources.length =
      architecture.resources.length + expansion.added)
    (due : List (String × HiddenRule)) :
    (applyRules catalog expansion due).architecture.resources.length =
      architecture.resources.length + (applyRules catalog expansion due).added := by
  induction due generalizing expansion with
  | nil => exact counted
  | cons next rest inductionHypothesis =>
      obtain ⟨parent, rule⟩ := next
      rw [applyRules]
      split
      next => exact counted
      next ids _ =>
        refine inductionHypothesis ?_
        rw [length_addChildren, counted, Nat.add_assoc]

/-! ## Resumption -/

/-- Rules lead to what the first ones of them lead to, which are through. -/
theorem exists_through
    (begins : expansion.failure = none)
    (catalog : Catalog)
    (due : List (String × HiddenRule)) :
    ∃ done rest, due = done ++ rest ∧
      applyRules catalog expansion done =
        { applyRules catalog expansion due with failure := none } := by
  induction due generalizing expansion with
  | nil => exact ⟨[], [], rfl, by rw [applyRules, ← begins]⟩
  | cons next others inductionHypothesis =>
      cases missing : missingIds catalog expansion.architecture next.2 next.1 with
      | error error =>
          refine ⟨[], next :: others, rfl, ?_⟩
          rw [applyRules, applyRules, missing, ← begins]
      | ok ids =>
          obtain ⟨done, rest, rfl, through⟩ :=
            @inductionHypothesis ⟨addChildren expansion.architecture next.2 next.1 ids, _, none⟩ rfl
          refine ⟨next :: done, rest, rfl, ?_⟩
          rw [applyRules_cons missing, applyRules_cons missing]
          exact through

/-- When some rules are through, expanding what they have led to comes to the same as expanding
from the start, also when more types are known, but for what was counted. -/
theorem expand_of_through
    (knowsAll : larger.KnowsAll catalog)
    (parts : dueRules catalog architecture = done ++ rest)
    (through : applyRules catalog { architecture } done =
      { architecture := settled, added := before }) :
    (expand larger settled).architecture = (expand larger architecture).architecture ∧
      (expand larger architecture).result = (expand larger settled).result.map (before + ·) := by
  have completes : (applyRules catalog { architecture } done).failure = none := by rw [through]
  have fromStart : expand larger architecture =
      applyRules larger { architecture := settled, added := before } rest := by
    have same := applyRules_of_knowsAll knowsAll completes
    rw [expand, dueRules_of_knowsAll knowsAll, parts, applyRules_append (same ▸ completes), same,
      through]
  have fromSettled : expand larger settled =
      applyRules larger { architecture := settled } rest := by
    have nothing := nothing_missing_applyRules completes
    have sameRules : dueRules catalog _ = _ := dueRules_applyRules { architecture } done
    rw [through] at nothing sameRules
    have idle := applyRules_of_nothing_missing nothing 0
    have same : applyRules larger { architecture := settled } done = { architecture := settled } :=
      (applyRules_of_knowsAll knowsAll (by rw [idle])).trans idle
    rw [expand, dueRules_of_knowsAll knowsAll, sameRules, parts,
      applyRules_append (by rw [same]), same]
  have counted : expand larger architecture =
      { expand larger settled with added := before + (expand larger settled).added } := by
    rw [fromStart, fromSettled]
    exact applyRules_counting before 0 rest
  rw [counted]
  exact ⟨rfl, result_counting before _⟩

/-- A stopped expansion can be taken up again.  With the same catalogue nothing comes of that, and
with one that offers more types it ends like an expansion from the start, but for what was
counted before. -/
theorem stopped_expansion_resumes
    (fails : (expand catalog architecture).result = .error error)
    (leaves : (expand catalog architecture).architecture = stopped) :
    ((expand catalog stopped).result = .error error ∧
      (expand catalog stopped).architecture = stopped) ∧
    ∃ before, stopped.resources.length = architecture.resources.length + before ∧
      ∀ types,
        (expand (catalog.offering types) stopped).architecture =
          (expand (catalog.offering types) architecture).architecture ∧
        (expand (catalog.offering types) architecture).result =
          (expand (catalog.offering types) stopped).result.map (before + ·) := by
  have begins : ({ architecture } : Expansion).failure = none := rfl
  obtain ⟨done, rest, parts, through⟩ :=
    exists_through begins catalog (dueRules catalog architecture)
  subst leaves
  obtain ⟨again, sameError⟩ := expand_of_through (.refl catalog) parts through
  rw [fails] at sameError
  exact ⟨⟨map_eq_error_iff.1 sameError.symm, again⟩, _, length_applyRules rfl _,
    fun types => expand_of_through (Catalog.knowsAll_offering types) parts through⟩

/-- Two servers whose disks are not known until the gateway of their network has been added. -/
theorem stopped_expansion_resumes_with_disks :
    ∃ start stopped, (expand interrupting start).result = .error (.type (.unknownType "Disk")) ∧
      (expand interrupting start).architecture = stopped ∧
      start.ids = ["net", "web", "db"] ∧ stopped.ids = ["net", "net-gateway-1", "web", "db"] ∧
      (expand interrupting stopped).architecture = stopped ∧
      (expand (interrupting.offering [.regional "Disk" .storage "disk" .aws]) stopped).result =
        .ok 2 ∧
      (expand (interrupting.offering [.regional "Disk" .storage "disk" .aws]) start).result =
        .ok 3 := by
  have stops : ∃ start stopped,
      (expand interrupting start).result = .error (.type (.unknownType "Disk")) ∧
      (expand interrupting start).architecture = stopped ∧
      start.ids = ["net", "web", "db"] ∧ stopped.ids = ["net", "net-gateway-1", "web", "db"] ∧
      stopped.resources.length = start.resources.length + 1 ∧
      (expand (interrupting.offering [.regional "Disk" .storage "disk" .aws]) stopped).result =
        .ok 2 :=
    ⟨drawn Diagram.network.resolvedGraph .aws "", _, rfl, rfl, rfl, rfl, rfl, rfl⟩
  obtain ⟨start, stopped, fails, leaves, startIds, stoppedIds, length, resumed⟩ := stops
  obtain ⟨again, before, grown, resumes⟩ := stopped_expansion_resumes fails leaves
  obtain rfl : before = 1 := by omega
  refine ⟨start, stopped, fails, leaves, startIds, stoppedIds, again.2, resumed, ?_⟩
  rw [(resumes _).2, resumed]
  rfl

end Architecture

end CloudPlan
