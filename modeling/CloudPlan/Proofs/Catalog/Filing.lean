import CloudPlan.Catalog.Hydration
import CloudPlan.Proofs.Catalog.Registration
import CloudPlan.Proofs.Catalog.Resolution

/-!
# Where rules are filed

A catalogue that is built up call by call keeps every rule that it was given, under the name
of a type that it knows.  Rules that are added one by one, and those that come out of a
store, are filed under the types that they are for.  Only a registration files rules
without looking at them, so every rule stands under its own type exactly when every
registration brought its own rules.
-/

namespace CloudPlan.Catalog

variable {catalog larger largest : Catalog} {name : String}

theorem mem_hiddenRules_iff {rule : HiddenRule} :
    rule ∈ catalog.hiddenRules name ↔ (name, rule) ∈ catalog.rules := by
  simp [hiddenRules]

/-- Rules are filed only under the names of known types. -/
def Covered (catalog : Catalog) : Prop :=
  ∀ entry ∈ catalog.rules, catalog.contains entry.1

/-- Rules are filed only under the types that they are for. -/
def Filed (catalog : Catalog) : Prop :=
  ∀ entry ∈ catalog.rules, entry.2.parentType = entry.1

theorem filed_iff :
    catalog.Filed ↔ ∀ name, ∀ rule ∈ catalog.hiddenRules name, rule.parentType = name := by
  simp only [mem_hiddenRules_iff]
  constructor
  · intro filed name rule member
    exact filed (name, rule) member
  · rintro filed ⟨name, rule⟩ member
    exact filed name rule member

theorem Covered.hiddenRules_eq_nil
    (covered : catalog.Covered)
    (unknown : catalog.contains name = false) :
    catalog.hiddenRules name = [] := by
  rw [List.eq_nil_iff_forall_not_mem]
  intro rule member
  have known : catalog.contains name := covered (name, rule) (mem_hiddenRules_iff.1 member)
  rw [unknown] at known
  contradiction

/-! ## Registrations -/

theorem Covered.register
    (covered : catalog.Covered)
    (type : ResourceType)
    (rules : List HiddenRule) :
    (catalog.register type rules).Covered := by
  intro entry member
  rw [contains_register_iff]
  rcases List.mem_append.1 member with before | isOwn
  · exact Or.inr (covered entry before)
  · obtain ⟨rule, _, rfl⟩ := List.mem_map.1 isOwn
    exact Or.inl rfl

/-- A registration files its rules under their own types exactly when they are for the type
that is registered. -/
theorem filed_register_iff
    (type : ResourceType)
    (rules : List HiddenRule) :
    (catalog.register type rules).Filed ↔
      catalog.Filed ∧ ∀ rule ∈ rules, rule.parentType = type.name := by
  simp only [Filed, Catalog.register, List.forall_mem_append, List.forall_mem_map]

/-! ## Additions -/

/-- One catalogue has come out of another: known types are known still, and rules were filed
behind those that it had, each under the type that it is for, which is known. -/
structure Extends (catalog larger : Catalog) : Prop where
  /-- Names stay known. -/
  known : ∀ name, catalog.contains name → larger.contains name
  /-- Rules stay, and those behind them are where they belong. -/
  rules : ∃ added, larger.rules = catalog.rules ++ added ∧
    ∀ entry ∈ added, larger.contains entry.1 ∧ entry.2.parentType = entry.1

namespace Extends

theorem refl (catalog : Catalog) : catalog.Extends catalog :=
  ⟨fun _ => id, [], by simp⟩

theorem trans
    (first : catalog.Extends larger)
    (second : larger.Extends largest) :
    catalog.Extends largest := by
  obtain ⟨added, isAdded, addedFiled⟩ := first.rules
  obtain ⟨more, isMore, moreFiled⟩ := second.rules
  refine ⟨fun name known => second.known name (first.known name known), added ++ more, ?_, ?_⟩
  · rw [isMore, isAdded, List.append_assoc]
  · rw [List.forall_mem_append]
    exact ⟨fun entry member => (addedFiled entry member).imp_left (second.known _), moreFiled⟩

theorem covered
    (extension : catalog.Extends larger)
    (covered : catalog.Covered) :
    larger.Covered := by
  obtain ⟨added, isAdded, addedFiled⟩ := extension.rules
  intro entry member
  rw [isAdded, List.mem_append] at member
  rcases member with before | isNew
  · exact extension.known _ (covered entry before)
  · exact (addedFiled entry isNew).1

theorem filed_iff
    (extension : catalog.Extends larger) :
    larger.Filed ↔ catalog.Filed := by
  obtain ⟨added, isAdded, addedFiled⟩ := extension.rules
  rw [Filed, isAdded, List.forall_mem_append]
  exact and_iff_left fun entry member => (addedFiled entry member).2

end Extends

/-- A rule for a known type is filed under it, and any other is dropped. -/
theorem addRuleIfKnown_eq (rule : HiddenRule) :
    catalog.addRuleIfKnown rule =
      { catalog with
        rules := catalog.rules ++
          if catalog.contains rule.parentType then [(rule.parentType, rule)] else [] } := by
  cases resolves : catalog.resolve rule.parentType with
  | error error =>
      have unknown : ¬catalog.contains rule.parentType := by
        rw [← exists_resolve_iff, resolves]
        rintro ⟨type, found⟩
        cases found
      rw [addRuleIfKnown, addRule, resolves, if_neg unknown, List.append_nil]
      rfl
  | ok type =>
      rw [addRuleIfKnown, addRule, resolves, if_pos (contains_of_resolve resolves)]
      rfl

theorem extends_addRuleIfKnown (rule : HiddenRule) :
    catalog.Extends (catalog.addRuleIfKnown rule) := by
  rw [addRuleIfKnown_eq]
  refine ⟨fun _ => id, _, rfl, ?_⟩
  split
  next known => exact List.forall_mem_singleton.2 ⟨known, rfl⟩
  next => exact List.forall_mem_nil _

theorem extends_foldl_addRuleIfKnown (rules : List HiddenRule) :
    catalog.Extends (rules.foldl addRuleIfKnown catalog) := by
  induction rules generalizing catalog with
  | nil => exact .refl catalog
  | cons rule rest inductionHypothesis =>
      exact (extends_addRuleIfKnown rule).trans inductionHypothesis

/-- A record has its own rules filed under its type, and its other rules under theirs. -/
theorem extends_addRecord (record : TypeRecord) :
    catalog.Extends (catalog.addRecord record) := by
  refine Extends.trans ?_ (extends_foldl_addRuleIfKnown _)
  constructor
  case known =>
    intro name known
    exact (contains_register_iff _ _).2 (Or.inr known)
  case rules =>
    refine ⟨_, rfl, ?_⟩
    rw [List.forall_mem_map]
    intro rule isOwn
    have forType : rule.parentType = record.type.name := by
      simpa using (List.mem_filter.1 isOwn).2
    exact ⟨(contains_register_iff _ _).2 (Or.inl rfl), forType⟩

theorem extends_hydrate
    (store : TypeStore)
    (provider : Provider)
    (names : List String) :
    catalog.Extends (hydrate store provider catalog names).catalog := by
  induction names generalizing store catalog with
  | nil => exact .refl catalog
  | cons name rest inductionHypothesis =>
      rw [hydrate]
      split
      · exact inductionHypothesis store
      · split
        next => exact inductionHypothesis store.asked
        next record _ => exact (extends_addRecord record).trans (inductionHypothesis store.asked)

/-! ## Calls -/

/-- A call that is made on a catalogue. -/
inductive Call where
  /-- A type is registered with rules. -/
  | register (type : ResourceType) (rules : List HiddenRule)
  /-- A rule is filed under the type that it is for; if that is unknown nothing changes. -/
  | addRule (rule : HiddenRule)
  /-- The catalogue is filled from a store. -/
  | hydrate (store : TypeStore) (provider : Provider) (names : List String)
  /-- A record is added that a store of another sort has answered with. -/
  | receive (record : TypeRecord)

/-- The catalogue after a call. -/
def perform (catalog : Catalog) : Call → Catalog
  | .register type rules => catalog.register type rules
  | .addRule rule => catalog.addRuleIfKnown rule
  | .hydrate store provider names => (Catalog.hydrate store provider catalog names).catalog
  | .receive record => catalog.addRecord record

/-- The catalogue that calls build up from nothing, one after the other. -/
def built (calls : List Call) : Catalog :=
  calls.foldl perform empty

/-- A registration brings rules for its own type only. -/
def Call.BringsOwn : Call → Prop
  | .register type rules => ∀ rule ∈ rules, rule.parentType = type.name
  | .addRule _ | .hydrate _ _ _ | .receive _ => True

theorem Covered.perform
    (covered : catalog.Covered)
    (call : Call) :
    (catalog.perform call).Covered := by
  cases call with
  | register type rules => exact covered.register type rules
  | addRule rule => exact (extends_addRuleIfKnown rule).covered covered
  | hydrate store provider names => exact (extends_hydrate store provider names).covered covered
  | receive record => exact (extends_addRecord record).covered covered

theorem filed_perform_iff (call : Call) :
    (catalog.perform call).Filed ↔ catalog.Filed ∧ call.BringsOwn := by
  cases call with
  | register type rules => exact filed_register_iff type rules
  | addRule rule =>
      rw [Call.BringsOwn, and_true]
      exact (extends_addRuleIfKnown rule).filed_iff
  | hydrate store provider names =>
      rw [Call.BringsOwn, and_true]
      exact (extends_hydrate store provider names).filed_iff
  | receive record =>
      rw [Call.BringsOwn, and_true]
      exact (extends_addRecord record).filed_iff

theorem Covered.foldl_perform
    (covered : catalog.Covered)
    (calls : List Call) :
    (calls.foldl Catalog.perform catalog).Covered := by
  induction calls generalizing catalog with
  | nil => exact covered
  | cons call rest inductionHypothesis => exact inductionHypothesis (covered.perform call)

theorem filed_foldl_perform_iff (calls : List Call) :
    (calls.foldl perform catalog).Filed ↔ catalog.Filed ∧ ∀ call ∈ calls, call.BringsOwn := by
  induction calls generalizing catalog with
  | nil => simp
  | cons call rest inductionHypothesis =>
      rw [List.foldl_cons, inductionHypothesis, filed_perform_iff, List.forall_mem_cons, and_assoc]

/-- However a catalogue is built up, there are no rules under the names of types that it does
not know, and under every other name there are only rules for the type of that name exactly
when no registration has brought rules for another type. -/
theorem rules_stand_under_own_types_iff (calls : List Call) :
    (∀ name, (built calls).contains name = false → (built calls).hiddenRules name = []) ∧
    ((∀ name, ∀ rule ∈ (built calls).hiddenRules name, rule.parentType = name) ↔
      ∀ call ∈ calls, call.BringsOwn) := by
  have coveredEmpty : empty.Covered := by simp [Covered, empty]
  have filedEmpty : empty.Filed := by simp [Filed, empty]
  constructor
  · intro name unknown
    exact (coveredEmpty.foldl_perform calls).hiddenRules_eq_nil unknown
  · rw [← filed_iff, built, filed_foldl_perform_iff, and_iff_right filedEmpty]

/-- A rule for networks that subnets are registered with stands under subnets. -/
theorem network_rule_stands_under_subnets :
    ∃ calls name rule, rule ∈ (built calls).hiddenRules name ∧ rule.parentType ≠ name :=
  ⟨[.register (.regional "Subnet" .networking "subnet" .aws)
      [{ parentType := "VPC", childType := "Subnet" }]],
    "Subnet", { parentType := "VPC", childType := "Subnet" }, by decide, by decide⟩

end CloudPlan.Catalog
