import CloudPlan.Proofs.Catalog.Filing
import CloudPlan.Proofs.Sequence

/-!
# What filling a catalogue adds

A catalogue is filled with the types that it lacks and a store has, each once and in the order in
which they are first named.  The rules that come with a type are filed under the types that are
known when it has been registered: its own are always kept, and rules for types that arrive later
are lost.  Filling the catalogue once more adds nothing.
-/

namespace CloudPlan.Catalog

variable {catalog : Catalog} {store : TypeStore} {provider : Provider}
  {name type : String} {names : List String} {record : TypeRecord}

/-! ## What is added -/

/-- The names that a catalogue lacks and a store has a record for, each once. -/
def lacking (store : TypeStore) (provider : Provider) (catalog : Catalog)
    (names : List String) : List String :=
  (names.filter fun name =>
    !catalog.contains name && (store.record? name provider).isSome).eraseDups

/-- The names that are known once one of the missing names is registered: those that were known
before, the missing ones that come earlier, and the name itself. -/
def knownWith (known missing : List String) (name : String) : List String :=
  known ++ missing.takeWhile (· != name) ++ [name]

/-- The rules for a type that the record of a name brings to a catalogue with the known names. -/
def brought (store : TypeStore) (provider : Provider) (known : List String)
    (name type : String) : List HiddenRule :=
  ((store.record? name provider).elim [] (·.rules)).filter fun rule =>
    rule.parentType == type && known.contains type

/-- What it comes to that the missing names of a catalogue are filled from a store. -/
structure Fills (store : TypeStore) (provider : Provider) (catalog : Catalog)
    (missing : List String) (filled : Hydration) : Prop where
  /-- The missing names are counted. -/
  added : filled.added = missing.length
  /-- They stand behind the names that were known. -/
  names : filled.catalog.names = catalog.names ++ missing
  /-- Types that were known stay as they are. -/
  kept : ∀ name, catalog.contains name → filled.catalog.resolve? name = catalog.resolve? name
  /-- The missing ones are those of the records. -/
  found : ∀ name ∈ missing,
    filled.catalog.resolve? name = (store.record? name provider).map (·.type)
  /-- Behind the rules of a type come those that the records bring for it, one record after the
  other, if the type is known by then. -/
  rules : ∀ type, filled.catalog.hiddenRules type = catalog.hiddenRules type ++
    missing.flatMap fun name =>
      brought store provider (knownWith catalog.names missing name) name type
  /-- The store has the records that it had. -/
  records : filled.store.records = store.records

theorem mem_lacking_iff :
    name ∈ lacking store provider catalog names ↔
      name ∈ names ∧ ¬catalog.contains name ∧ (store.record? name provider).isSome := by
  simp [lacking]

theorem name_of_record?
    (isFound : store.record? name provider = some record) :
    record.type.name = name := by
  have isRecord := List.find?_some isFound
  rw [Bool.and_eq_true, beq_iff_eq] at isRecord
  exact isRecord.1

/-! ## Rules for other types -/

/-- Rules are filed behind those of the registered type. -/
theorem hiddenRules_register
    (new : ResourceType)
    (rules : List HiddenRule) :
    (catalog.register new rules).hiddenRules type =
      catalog.hiddenRules type ++ if new.name = type then rules else [] := by
  rw [hiddenRules, Catalog.register, List.filter_append, List.map_append, ← hiddenRules,
    List.filter_map, List.map_map]
  split
  next isSame => simp [Function.comp_def, isSame]
  next isOther => simp [Function.comp_def, isOther]

/-- Rules for known types stand behind the others of their types, and nothing else changes. -/
theorem foldl_addRuleIfKnown_eq (rules : List HiddenRule) :
    rules.foldl addRuleIfKnown catalog =
      { catalog with
        rules := catalog.rules ++
          (rules.filter fun rule => catalog.contains rule.parentType).map fun rule =>
            (rule.parentType, rule) } := by
  induction rules generalizing catalog with
  | nil => simp
  | cons rule rest inductionHypothesis =>
      rw [List.foldl_cons, inductionHypothesis, addRuleIfKnown_eq, List.filter_cons]
      by_cases known : catalog.contains rule.parentType
      · rw [if_pos known, if_pos known, List.append_assoc, List.map_cons, List.singleton_append]
        rfl
      · rw [if_neg known, if_neg known, List.append_nil]

theorem hiddenRules_foldl_addRuleIfKnown (rules : List HiddenRule) :
    (rules.foldl addRuleIfKnown catalog).hiddenRules type = catalog.hiddenRules type ++
      rules.filter fun rule => rule.parentType == type && catalog.contains type := by
  rw [foldl_addRuleIfKnown_eq, hiddenRules, List.filter_append, List.map_append, ← hiddenRules,
    List.filter_map, List.map_map, List.filter_filter]
  congr 1
  have sameRules : ∀ rule : HiddenRule,
      (rule.parentType == type && catalog.contains rule.parentType) =
        (rule.parentType == type && catalog.contains type) := by
    intro rule
    by_cases isFor : rule.parentType = type
    · rw [isFor]
    · rw [beq_false_of_ne isFor, Bool.false_and, Bool.false_and]
  simp only [Function.comp_def, sameRules, List.map_id']

/-! ## One record -/

/-- Adding a record changes types and names like the registration of its type. -/
theorem addRecord_eq (record : TypeRecord) :
    ∃ rules, catalog.addRecord record = { catalog.register record.type [] with rules } :=
  ⟨_, foldl_addRuleIfKnown_eq _⟩

theorem resolve?_addRecord :
    (catalog.addRecord record).resolve? name =
      if name = record.type.name then some record.type else catalog.resolve? name := by
  obtain ⟨rules, added⟩ := catalog.addRecord_eq record
  rw [added]
  exact resolve?_register record.type []

theorem contains_addRecord_iff :
    (catalog.addRecord record).contains name ↔
      name = record.type.name ∨ catalog.contains name := by
  obtain ⟨rules, added⟩ := catalog.addRecord_eq record
  rw [added]
  exact contains_register_iff record.type []

theorem names_addRecord
    (unknown : ¬catalog.contains record.type.name) :
    (catalog.addRecord record).names = catalog.names ++ [record.type.name] := by
  obtain ⟨rules, added⟩ := catalog.addRecord_eq record
  rw [added]
  exact names_register_of_unknown unknown []

/-- The rules of a record are filed if their types are known, its own among them. -/
theorem hiddenRules_addRecord :
    (catalog.addRecord record).hiddenRules type = catalog.hiddenRules type ++
      record.rules.filter fun rule =>
        rule.parentType == type && (catalog.addRecord record).contains type := by
  have sameKnown : (catalog.addRecord record).contains type =
      (catalog.register record.type (record.rules.filter
        (·.parentType == record.type.name))).contains type := by
    rw [Bool.eq_iff_iff, contains_addRecord_iff, contains_register_iff]
  rw [sameKnown, addRecord, hiddenRules_foldl_addRuleIfKnown, hiddenRules_register,
    List.filter_filter, List.append_assoc]
  congr 1
  by_cases isOwn : record.type.name = type
  · have known : (catalog.register record.type
        (record.rules.filter (·.parentType == type))).contains type :=
      (contains_register_iff _ _).2 (Or.inl isOwn.symm)
    simp [isOwn, known]
  · have allLinked : ∀ (rule : HiddenRule) (known : Bool),
        (rule.parentType == type && known && rule.parentType != record.type.name) =
          (rule.parentType == type && known) := by
      intro rule known
      by_cases isFor : rule.parentType = type
      · simp [isFor, Ne.symm isOwn]
      · simp [isFor]
    simp only [if_neg isOwn, List.nil_append, allLinked]

/-- Adding a record keeps names and types in step. -/
theorem InStep.addRecord
    (inStep : catalog.InStep)
    (record : TypeRecord) :
    (catalog.addRecord record).InStep := by
  obtain ⟨rules, added⟩ := catalog.addRecord_eq record
  have registered := inStep.register record.type []
  rw [added]
  exact ⟨registered.listed, registered.named⟩

/-! ## All names -/

theorem lacking_cons_of_skipped
    (skipped : catalog.contains name ∨ store.record? name provider = none) :
    lacking store provider catalog (name :: names) = lacking store provider catalog names := by
  rw [lacking, List.filter_cons_of_neg, ← lacking]
  rcases skipped with known | absent
  · simp [known]
  · simp [absent]

/-- Once the record of a name is added, the name is lacking no longer. -/
theorem lacking_cons_of_added
    (unknown : ¬catalog.contains name)
    (isFound : store.record? name provider = some record) :
    lacking store provider catalog (name :: names) =
      name :: lacking store provider (catalog.addRecord record) names := by
  have isLacking :
      (!catalog.contains name && (store.record? name provider).isSome) = true := by
    rw [Bool.eq_false_iff.2 unknown, isFound]
    rfl
  rw [lacking, List.filter_cons, if_pos isLacking, List.eraseDups_cons, List.filter_filter, lacking]
  congr 2
  apply List.filter_congr
  intro other _
  have known : (catalog.addRecord record).contains other =
      (catalog.contains other || other == name) := by
    rw [Bool.eq_iff_iff, contains_addRecord_iff, name_of_record? isFound, Bool.or_eq_true,
      beq_iff_eq, or_comm]
  rw [known, Bool.not_or]
  cases catalog.contains other <;> cases other == name <;> simp

/-- Asking a store changes nothing that it answers. -/
theorem Fills.of_asked
    {missing : List String}
    {filled : Hydration}
    (fills : Fills store.asked provider catalog missing filled) :
    Fills store provider catalog missing filled :=
  ⟨fills.added, fills.names, fills.kept, fills.found, fills.rules, fills.records⟩

/-- What is filled after a record was added, and the record, fill the catalogue. -/
theorem Fills.cons
    {missing : List String}
    {filled : Hydration}
    (inStep : catalog.InStep)
    (unknown : ¬catalog.contains name)
    (isFound : store.record? name provider = some record)
    (isNew : name ∉ missing)
    (fills : Fills store.asked provider (catalog.addRecord record) missing filled) :
    Fills store provider catalog (name :: missing) { filled with added := filled.added + 1 } := by
  obtain rfl := name_of_record? isFound
  have largerNames := names_addRecord unknown
  constructor
  case added => rw [fills.added, List.length_cons]
  case names =>
    rw [fills.names, largerNames, List.append_assoc, List.singleton_append]
  case kept =>
    intro other known
    have isOther : other ≠ record.type.name := by
      rintro rfl
      exact unknown known
    rw [fills.kept other (contains_addRecord_iff.2 (Or.inr known)), resolve?_addRecord,
      if_neg isOther]
  case found =>
    refine List.forall_mem_cons.2 ⟨?_, fills.found⟩
    rw [fills.kept _ (contains_addRecord_iff.2 (Or.inl rfl)), resolve?_addRecord, if_pos rfl,
      isFound]
    rfl
  case rules =>
    intro type
    have knownFirst : knownWith catalog.names (record.type.name :: missing) record.type.name =
        catalog.names ++ [record.type.name] := by
      simp [knownWith]
    have knownLater : ∀ other ∈ missing,
        knownWith catalog.names (record.type.name :: missing) other =
          knownWith (catalog.addRecord record).names missing other := by
      intro other member
      have isOther : record.type.name ≠ other := fun same => isNew (same ▸ member)
      simp [knownWith, largerNames, isOther]
    have isKnown : (catalog.addRecord record).contains type =
        (catalog.names ++ [record.type.name]).contains type := by
      rw [Bool.eq_iff_iff, (inStep.addRecord record).contains_iff, largerNames,
        List.contains_iff_mem]
    rw [fills.rules, hiddenRules_addRecord, isKnown, List.append_assoc, List.flatMap_cons,
      knownFirst, brought, isFound]
    congr 2
    apply List.flatMap_congr
    intro other member
    rw [knownLater other member]
    rfl
  case records => exact fills.records

/-- A catalogue is filled with what it lacks. -/
theorem fills_hydrate
    (inStep : catalog.InStep) :
    Fills store provider catalog (lacking store provider catalog names)
      (hydrate store provider catalog names) := by
  induction names generalizing store catalog with
  | nil =>
      constructor <;> simp [hydrate, lacking]
  | cons name rest inductionHypothesis =>
      rw [hydrate]
      split
      next known =>
        rw [lacking_cons_of_skipped (Or.inl known)]
        exact inductionHypothesis inStep
      next unknown =>
        split
        next absent =>
          rw [lacking_cons_of_skipped (Or.inr absent)]
          exact Fills.of_asked (inductionHypothesis inStep)
        next record isFound =>
          rw [lacking_cons_of_added unknown isFound]
          refine Fills.cons inStep unknown isFound ?_
            (inductionHypothesis (inStep.addRecord record))
          intro member
          have notKnown := (mem_lacking_iff.1 member).2.1
          exact notKnown (contains_addRecord_iff.2 (Or.inl (name_of_record? isFound).symm))

/-- Where nothing is lacking, nothing is added. -/
theorem hydrate_of_lacking_eq_nil
    (nothing : lacking store provider catalog names = []) :
    (hydrate store provider catalog names).added = 0 ∧
      (hydrate store provider catalog names).catalog = catalog := by
  induction names generalizing store with
  | nil => exact ⟨rfl, rfl⟩
  | cons name rest inductionHypothesis =>
      rw [hydrate]
      split
      next known =>
        rw [lacking_cons_of_skipped (Or.inl known)] at nothing
        exact inductionHypothesis nothing
      next unknown =>
        split
        next absent =>
          rw [lacking_cons_of_skipped (Or.inr absent)] at nothing
          exact inductionHypothesis nothing
        next record isFound =>
          rw [lacking_cons_of_added unknown isFound] at nothing
          cases nothing

/-! ## Own rules -/

theorem not_contains_knownWith
    {before after : List String}
    {other : String}
    (unknown : name ∉ catalog.names)
    (isLater : name ∉ before)
    (isEarlier : other ∈ before) :
    (knownWith catalog.names (before ++ name :: after) other).contains name = false := by
  have stopped : (before ++ name :: after).takeWhile (· != other) =
      before.takeWhile (· != other) := by
    rw [List.takeWhile_append, if_neg]
    intro sameLength
    have whole := (List.takeWhile_sublist (· != other)).eq_of_length sameLength
    have differs := List.mem_takeWhile_imp (whole.symm ▸ isEarlier)
    simp at differs
  have notBefore : name ∉ before.takeWhile (· != other) :=
    fun member => isLater ((List.takeWhile_sublist _).subset member)
  have isOther : name ≠ other := fun same => isLater (same ▸ isEarlier)
  simp [knownWith, stopped, unknown, notBefore, isOther]

/-- The rules that a record has for its own type stand first among those of the type. -/
theorem Fills.own_prefix
    {missing : List String}
    {filled : Hydration}
    (inStep : catalog.InStep)
    (covered : catalog.Covered)
    (fills : Fills store provider catalog missing filled)
    (unknown : ¬catalog.contains name)
    (member : name ∈ missing)
    (isFound : store.record? name provider = some record) :
    record.rules.filter (·.parentType == name) <+: filled.catalog.hiddenRules name := by
  obtain ⟨before, after, rfl, isLater⟩ := List.eq_append_cons_of_mem member
  have noneBefore : catalog.hiddenRules name = [] :=
    covered.hiddenRules_eq_nil (Bool.eq_false_iff.2 unknown)
  have noneEarlier : before.flatMap (fun other => brought store provider
      (knownWith catalog.names (before ++ name :: after) other) other name) = [] := by
    rw [List.flatMap_eq_nil_iff]
    intro other isEarlier
    rw [brought, not_contains_knownWith (mt inStep.contains_iff.2 unknown) isLater isEarlier]
    simp
  have own : brought store provider
      (knownWith catalog.names (before ++ name :: after) name) name name =
        record.rules.filter (·.parentType == name) := by
    simp [brought, knownWith, isFound]
  rw [fills.rules, noneBefore, List.nil_append, List.flatMap_append, noneEarlier,
    List.nil_append, List.flatMap_cons, own]
  exact List.prefix_append _ _

/-! ## Catalogues that are built up -/

/-- A catalogue that is filled keeps names and types in step. -/
theorem InStep.hydrate
    (inStep : catalog.InStep)
    (store : TypeStore)
    (provider : Provider)
    (names : List String) :
    (hydrate store provider catalog names).catalog.InStep := by
  induction names generalizing store catalog with
  | nil => exact inStep
  | cons name rest inductionHypothesis =>
      rw [Catalog.hydrate]
      split
      next => exact inductionHypothesis inStep store
      next =>
        split
        next => exact inductionHypothesis inStep store.asked
        next record _ => exact inductionHypothesis (inStep.addRecord record) store.asked

/-- No call takes names and types out of step. -/
theorem InStep.perform
    (inStep : catalog.InStep)
    (call : Call) :
    (catalog.perform call).InStep := by
  cases call with
  | register new rules => exact inStep.register new rules
  | addRule rule =>
      rw [Catalog.perform, addRuleIfKnown_eq]
      exact ⟨inStep.listed, inStep.named⟩
  | hydrate store provider names => exact inStep.hydrate store provider names
  | receive record => exact inStep.addRecord record

theorem InStep.foldl_perform
    (inStep : catalog.InStep)
    (calls : List Call) :
    (calls.foldl Catalog.perform catalog).InStep := by
  induction calls generalizing catalog with
  | nil => exact inStep
  | cons call rest inductionHypothesis => exact inductionHypothesis (inStep.perform call)

theorem inStep_built (calls : List Call) :
    (built calls).InStep :=
  InStep.empty.foldl_perform calls

theorem covered_built (calls : List Call) :
    (built calls).Covered :=
  Covered.foldl_perform (by simp [Covered, empty]) calls

/-- However a catalogue was built up, a store fills it with what it lacks, once and for all: the
names stay apart, there is one type for each and it stands under it, no rule is lost or moved or
stands under another name, the rules of a type for itself come first among its rules, and filling
the catalogue again with the same names adds nothing. -/
theorem hydrate_fills_once
    (calls : List Call)
    (store : TypeStore)
    (provider : Provider)
    (names : List String) :
    let catalog := built calls
    let missing := lacking store provider catalog names
    let filled := hydrate store provider catalog names
    Fills store provider catalog missing filled ∧
    filled.catalog.names.Nodup ∧
    filled.catalog.size = filled.catalog.names.length ∧
    filled.catalog.types.map (·.name) = filled.catalog.names ∧
    (∀ type, filled.catalog.contains type = false → filled.catalog.hiddenRules type = []) ∧
    (∀ type, catalog.hiddenRules type <+: filled.catalog.hiddenRules type) ∧
    (∀ name ∈ missing, ∀ record, store.record? name provider = some record →
      record.rules.filter (·.parentType == name) <+: filled.catalog.hiddenRules name) ∧
    ∀ again : TypeStore, again.records = store.records →
      (hydrate again provider filled.catalog names).added = 0 ∧
      (hydrate again provider filled.catalog names).catalog = filled.catalog := by
  intro catalog missing filled
  have inStep : catalog.InStep := inStep_built calls
  have filledInStep : filled.catalog.InStep := inStep.hydrate store provider names
  have fills : Fills store provider catalog missing filled := fills_hydrate inStep
  have filledCovered : filled.catalog.Covered :=
    (covered_built calls).perform (.hydrate store provider names)
  refine ⟨fills, filledInStep.nodup_names, filledInStep.size_eq, filledInStep.map_name_types,
    fun type => filledCovered.hiddenRules_eq_nil, ?_, ?_, ?_⟩
  · intro type
    rw [fills.rules]
    exact List.prefix_append _ _
  · intro name isMissing record isFound
    exact fills.own_prefix inStep (covered_built calls) (mem_lacking_iff.1 isMissing).2.1
      isMissing isFound
  · intro again sameRecords
    apply hydrate_of_lacking_eq_nil
    rw [List.eq_nil_iff_forall_not_mem]
    intro name isLacking
    obtain ⟨named, unknown, isFound⟩ := mem_lacking_iff.1 isLacking
    rw [filledInStep.contains_iff, fills.names, List.mem_append, not_or] at unknown
    apply unknown.2
    rw [TypeStore.record?, sameRecords] at isFound
    exact mem_lacking_iff.2 ⟨named, mt inStep.contains_iff.1 unknown.1, isFound⟩

end CloudPlan.Catalog
