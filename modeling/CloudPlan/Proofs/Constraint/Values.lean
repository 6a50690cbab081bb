import CloudPlan.Constraint.Requirement
import CloudPlan.Proofs.Json.PrintedTexts
import CloudPlan.Proofs.Sequence

/-!
# What the values of constraints say

The values of constraints described as texts, without the readers: names of types stand
in a JSON list or alone, and a bound is a number that may follow a type and a colon.
The readers accept these values and no others.
-/

namespace CloudPlan

/-! ## Trimming -/

namespace Text

theorem trimChars_eq (chars : List Char) :
    trimChars chars = (chars.dropWhile isBlank).rdropWhile isBlank := rfl

/-- Trimming leaves nothing to trim. -/
theorem trimChars_trimChars
    (chars : List Char) :
    trimChars (trimChars chars) = trimChars chars := by
  have noBlank : (trimChars chars).dropWhile isBlank = trimChars chars := by
    cases trimmed : trimChars chars with
    | nil => rfl
    | cons c rest =>
        have notBlank := not_of_trimmed (trimChars_eq chars ▸ trimmed)
        exact List.dropWhile_cons_of_neg (by simp [notBlank])
  rw [trimChars_eq, noBlank, trimChars_eq, List.rdropWhile_idempotent]

theorem trim_trim (text : String) : trim (trim text) = trim text := by
  rw [trim, trim, String.toList_ofList, trimChars_trimChars]

/-- A text without blanks at its ends is left as it is. -/
theorem trim_eq_self
    {text : String}
    (starts : ∀ c ∈ text.toList.head?, isBlank c = false)
    (ends : ∀ c ∈ text.toList.getLast?, isBlank c = false) :
    trim text = text := by
  have front : text.toList.dropWhile isBlank = text.toList := by
    rw [List.dropWhile_eq_self_iff]
    intro filled
    rw [Bool.not_eq_true]
    exact starts _ (List.head?_eq_getElem? ▸ List.getElem?_eq_getElem filled)
  have back : text.toList.rdropWhile isBlank = text.toList := by
    rw [List.rdropWhile_eq_self_iff]
    intro filled
    rw [Bool.not_eq_true]
    exact ends _ (List.getLast?_eq_getLast_of_ne_nil filled)
  rw [trim, trimChars_eq, front, back, String.ofList_toList]

/-- Trimming takes away nothing but blanks. -/
theorem mem_trim
    {c : Char}
    {text : String}
    (member : c ∈ text.toList)
    (notBlank : isBlank c = false) :
    c ∈ (trim text).toList := by
  have kept {chars : List Char} (isIn : c ∈ chars) : c ∈ chars.dropWhile isBlank := by
    rw [← List.takeWhile_append_dropWhile (p := isBlank) (l := chars), List.mem_append] at isIn
    rcases isIn with dropped | stays
    · rw [List.mem_takeWhile_imp dropped] at notBlank
      contradiction
    · exact stays
  rw [trim, String.toList_ofList, trimChars, List.mem_reverse]
  exact kept (List.mem_reverse.2 (kept member))

theorem length_trim_le (text : String) : (trim text).toList.length ≤ text.toList.length := by
  rw [trim, String.toList_ofList, trimChars_eq]
  exact (List.rdropWhile_prefix _ _).length_le.trans (List.dropWhile_sublist _).length_le

/-- Of a blank text trimming leaves nothing. -/
theorem trim_of_isBlankText
    {text : String}
    (blank : isBlankText text = true) :
    trim text = "" := by
  have nothing : text.toList.dropWhile isBlank = [] :=
    List.dropWhile_eq_nil_iff.2 (List.all_eq_true.1 blank)
  rw [trim, trimChars_eq, nothing]
  rfl

theorem lowerAscii_eq_empty_iff (text : String) : lowerAscii text = "" ↔ text = "" := by
  rw [lowerAscii, ← String.toList_inj, String.toList_ofList, ← String.toList_inj]
  exact List.map_eq_nil_iff

end Text

/-! ## Names of types -/

/-- A value without blanks at its ends lists names: in a JSON list, or as one bare name. -/
inductive ListsNames (value : String) : List String → Prop
  /-- A JSON list of texts. -/
  | list
      {names : List String}
      (opens : value.toList.head? = some '[')
      (spells : Json.Value.parse? value = some (.ofTexts names)) :
      ListsNames value names
  /-- A name without blanks. -/
  | bare
      (filled : value ≠ "")
      (plain : value.toList.head? ≠ some '[')
      (unbroken : ∀ c ∈ value.toList, Text.isBlank c = false) :
      ListsNames value [value]

/-- The names that are read are those that the value lists. -/
theorem typeNames?_eq_some_iff
    {value : String}
    (trimmed : Text.trim value = value)
    {names : List String} :
    typeNames? value = some names ↔ ListsNames value names := by
  simp only [typeNames?, trimmed]
  split
  next opens =>
    -- Reading the texts of a tree and taking its value accept the same trees.
    have spells : (Json.Tree.ofText? value).bind
        (fun tree => Json.list? Json.text? (Json.Nested.mk tree Json.mostNested)) = some names ↔
          Json.Value.parse? value = some (.ofTexts names) := by
      simp only [Json.Value.parse?, Option.bind_eq_some_iff, Json.mostNested,
        Json.list?_text?_eq_some_iff, Json.value?_eq_ofTexts_iff]
    refine spells.trans ⟨.list opens, fun listed => ?_⟩
    cases listed with
    | list _ spells => exact spells
    | bare _ plain _ => exact absurd opens plain
  next plain =>
    split
    next unusable =>
      constructor
      · intro read
        contradiction
      · intro listed
        cases listed with
        | list opens _ => exact absurd opens plain
        | bare filled _ unbroken =>
            rcases unusable with empty | broken
            · exact absurd empty filled
            · obtain ⟨c, member, isBlank⟩ := List.any_eq_true.1 broken
              rw [unbroken c member] at isBlank
              contradiction
    next usable =>
      rw [not_or] at usable
      constructor
      · intro read
        obtain rfl := Option.some.inj read
        exact .bare usable.1 plain (by simpa using usable.2)
      · intro listed
        cases listed with
        | list opens _ => exact absurd opens plain
        | bare _ _ _ => rfl

/-! ### Printed lists -/

theorem toList_typeList (names : List String) :
    ∃ inside, (Constraint.typeList names).toList = '[' :: inside ++ [']'] :=
  ⟨_, String.toList_ofList⟩

/-- No blanks stand at the ends of a printed list. -/
theorem trim_typeList (names : List String) :
    Text.trim (Constraint.typeList names) = Constraint.typeList names := by
  obtain ⟨inside, printed⟩ := toList_typeList names
  apply Text.trim_eq_self
  · rw [printed, List.cons_append, List.head?_cons]
    intro c first
    obtain rfl := Option.some.inj first
    decide
  · rw [printed, List.getLast?_concat]
    intro c last
    obtain rfl := Option.some.inj last
    decide

/-- A printed list lists the names that were printed. -/
theorem listsNames_typeList (names : List String) :
    ListsNames (Constraint.typeList names) names := by
  obtain ⟨inside, printed⟩ := toList_typeList names
  refine .list ?_ (Json.Value.parse?_compact_ofTexts names)
  rw [printed]
  rfl

theorem typeNames?_typeList (names : List String) :
    typeNames? (Constraint.typeList names) = some names :=
  (typeNames?_eq_some_iff (trim_typeList names)).2 (listsNames_typeList names)

/-! ## Bounds -/

/-- A value writes a bound: a number, or a type, a colon and a number. -/
inductive WritesBound : String → ChildBound → Prop
  /-- A bound on all contents. -/
  | total
      {value : String}
      {count : Nat}
      (plain : ':' ∉ value.toList)
      (number : Text.word? value = some count) :
      WritesBound value { count }
  /-- A bound on the contents of one type. -/
  | ofType
      {before after : String}
      {count : Nat}
      (first : ':' ∉ before.toList)
      (named : Text.trim before ≠ "")
      (number : Text.word? (Text.trim after) = some count) :
      WritesBound (before ++ ":" ++ after) { childType := some (Text.trim before), count }

namespace ChildBound

theorem parse?_of_plain
    {value : String}
    (plain : ':' ∉ value.toList) :
    parse? value = (Text.word? value).map ({ count := · }) := by
  have noColon : value.toList.dropWhile (· != ':') = [] := by
    rw [List.dropWhile_eq_nil_iff]
    intro c member
    have different : c ≠ ':' := fun isColon => plain (isColon ▸ member)
    simpa using different
  simp only [parse?, noColon]

theorem parse?_of_colon
    {before after : String}
    (first : ':' ∉ before.toList) :
    parse? (before ++ ":" ++ after) =
      if Text.trim before = "" then
        none
      else
        (Text.word? (Text.trim after)).map
          ({ childType := some (Text.trim before), count := · }) := by
  have inside : ∀ c ∈ before.toList, (c != ':') = true := by
    intro c member
    have different : c ≠ ':' := fun isColon => first (isColon ▸ member)
    simpa using different
  have chars : (before ++ ":" ++ after).toList = before.toList ++ ':' :: after.toList := by
    simp
  have front : (before ++ ":" ++ after).toList.takeWhile (· != ':') = before.toList := by
    rw [chars, List.takeWhile_append_of_pos inside]
    simp
  have back : (before ++ ":" ++ after).toList.dropWhile (· != ':') = ':' :: after.toList := by
    rw [chars, List.dropWhile_append_of_pos inside]
    simp
  have unnamed : Text.trimChars before.toList = [] ↔ Text.trim before = "" := by
    rw [Text.trim, String.ofList_eq_empty_iff]
  simp only [parse?, front, back, unnamed]
  rfl

/-- A text has no colon, or else a first one. -/
theorem plain_or_colon
    (value : String) :
    ':' ∉ value.toList ∨
      ∃ before after : String, ':' ∉ before.toList ∧ value = before ++ ":" ++ after := by
  by_cases plain : ':' ∈ value.toList
  · obtain ⟨front, back, whole, first⟩ := List.eq_append_cons_of_mem plain
    refine Or.inr ⟨String.ofList front, String.ofList back, by simpa using first, ?_⟩
    rw [← String.toList_inj, whole]
    simp
  · exact Or.inl plain

/-- The bound that is read is the one that the value writes. -/
theorem parse?_eq_some_iff
    {value : String}
    {bound : ChildBound} :
    parse? value = some bound ↔ WritesBound value bound := by
  constructor
  · intro read
    rcases plain_or_colon value with plain | ⟨before, after, first, rfl⟩
    · rw [parse?_of_plain plain] at read
      obtain ⟨count, number, rfl⟩ := Option.map_eq_some_iff.1 read
      exact .total plain number
    · rw [parse?_of_colon first] at read
      split at read
      · contradiction
      · next named =>
          obtain ⟨count, number, rfl⟩ := Option.map_eq_some_iff.1 read
          exact .ofType first named number
  · intro written
    cases written with
    | total plain number => rw [parse?_of_plain plain, number, Option.map_some]
    | ofType first named number =>
        rw [parse?_of_colon first, if_neg named, number, Option.map_some]

end ChildBound

/-! ## Requirements -/

/-- A value demands a container: any, or one of the types that it lists. -/
inductive DemandsParent (value : String) : Option (List String) → Prop
  /-- Any container will do. -/
  | any
      (switched : value = "" ∨ Text.lowerAscii value = "true") :
      DemandsParent value none
  /-- The container has to be of one of some types. -/
  | oneOf
      {names : List String}
      (notTrue : Text.lowerAscii value ≠ "true")
      (notFalse : Text.lowerAscii value ≠ "false")
      (listed : ListsNames value names) :
      DemandsParent value (some names)

/-- What the value of a constraint of some kind requires. -/
@[mk_iff]
inductive Requires (value : String) : ConstraintKind → Requirement → Prop
  /-- A container is demanded. -/
  | contained
      {allowed : Option (List String)}
      (demanded : DemandsParent value allowed) :
      Requires value .requiresParent (.contained allowed)
  /-- The types of containers are listed. -/
  | containedOnlyIn
      {names : List String}
      (listed : ListsNames value names) :
      Requires value .allowedParent (.containedOnlyIn names)
  /-- The demand for a region is switched on. -/
  | region
      (switched : Text.lowerAscii value = "true") :
      Requires value .requiresRegion .region
  /-- A greatest number of contents is written. -/
  | atMost
      {bound : ChildBound}
      (written : WritesBound value bound) :
      Requires value .maxChildren (.atMost bound)
  /-- A least number of contents is written. -/
  | atLeast
      {bound : ChildBound}
      (written : WritesBound value bound) :
      Requires value .minChildren (.atLeast bound)
  /-- The dependencies that are allowed are listed. -/
  | dependsOnlyOn
      {names : List String}
      (listed : ListsNames value names) :
      Requires value .allowedDependencies (.dependsOnlyOn names)
  /-- The dependencies that are forbidden are listed. -/
  | neverDependsOn
      {names : List String}
      (listed : ListsNames value names) :
      Requires value .forbiddenDependencies (.neverDependsOn names)

namespace Requirement

/-- No names stand in an empty value. -/
theorem not_listsNames_empty (names : List String) : ¬ ListsNames "" names := by
  intro listed
  cases listed with
  | list opens _ => simp at opens
  | bare filled _ _ => exact filled rfl

/-- Where any container will do, the value demands nothing more. -/
theorem demandsParent_iff_of_switched
    {value : String}
    (switched : value = "" ∨ Text.lowerAscii value = "true")
    {allowed : Option (List String)} :
    DemandsParent value allowed ↔ allowed = none := by
  constructor
  · intro demanded
    cases demanded with
    | any _ => rfl
    | oneOf notTrue _ listed =>
        rcases switched with rfl | isTrue
        · exact absurd listed (not_listsNames_empty _)
        · exact absurd isTrue notTrue
  · rintro rfl
    exact .any switched

/-- Otherwise it demands a container of the types that it lists, unless it is switched off. -/
theorem demandsParent_iff_of_not_switched
    {value : String}
    (notEmpty : value ≠ "")
    (notTrue : Text.lowerAscii value ≠ "true")
    {allowed : Option (List String)} :
    DemandsParent value allowed ↔
      Text.lowerAscii value ≠ "false" ∧ ∃ names, ListsNames value names ∧ allowed = some names := by
  constructor
  · intro demanded
    cases demanded with
    | any switched =>
        rcases switched with isEmpty | isTrue
        · exact absurd isEmpty notEmpty
        · exact absurd isTrue notTrue
    | oneOf _ notFalse listed => exact ⟨notFalse, _, listed, rfl⟩
  · rintro ⟨notFalse, names, listed, rfl⟩
    exact .oneOf notTrue notFalse listed

theorem ofKind?_requiresParent_eq_some_iff
    {value : String}
    (trimmed : Text.trim value = value)
    {requirement : Requirement} :
    ofKind? .requiresParent value = some requirement ↔
      ∃ allowed, DemandsParent value allowed ∧ contained allowed = requirement := by
  have isEmpty := Text.lowerAscii_eq_empty_iff value
  simp only [ofKind?]
  split
  next isFalse =>
    have notTrue : Text.lowerAscii value ≠ "true" := by simp [isFalse]
    have notEmpty : value ≠ "" := by simp [← isEmpty, isFalse]
    simp [demandsParent_iff_of_not_switched notEmpty notTrue, isFalse]
  next empty =>
    simp [demandsParent_iff_of_switched (Or.inl (isEmpty.1 empty))]
  next isTrue =>
    simp [demandsParent_iff_of_switched (Or.inr isTrue)]
  next notFalse notEmpty notTrue =>
    have notEmpty : value ≠ "" := fun empty => notEmpty (isEmpty.2 empty)
    simp only [demandsParent_iff_of_not_switched notEmpty notTrue, Option.map_eq_some_iff,
      typeNames?_eq_some_iff trimmed]
    constructor
    · rintro ⟨names, listed, rfl⟩
      exact ⟨_, ⟨notFalse, names, listed, rfl⟩, rfl⟩
    · rintro ⟨_, ⟨_, names, listed, rfl⟩, rfl⟩
      exact ⟨names, listed, rfl⟩

/-- The requirement that is read is what the value requires. -/
theorem ofKind?_eq_some_iff
    {value : String}
    (trimmed : Text.trim value = value)
    {kind : ConstraintKind}
    {requirement : Requirement} :
    ofKind? kind value = some requirement ↔ Requires value kind requirement := by
  cases kind with
  | requiresParent =>
      simp [requires_iff, ofKind?_requiresParent_eq_some_iff trimmed, @eq_comm _ requirement]
  | allowedParent =>
      simp [ofKind?, requires_iff, Option.map_eq_some_iff,
        typeNames?_eq_some_iff trimmed, @eq_comm _ requirement]
  | requiresRegion => simp [ofKind?, requires_iff, @eq_comm _ requirement]
  | maxChildren => simp [ofKind?, requires_iff, Option.map_eq_some_iff,
        ChildBound.parse?_eq_some_iff, @eq_comm _ requirement]
  | minChildren => simp [ofKind?, requires_iff, Option.map_eq_some_iff,
        ChildBound.parse?_eq_some_iff, @eq_comm _ requirement]
  | allowedDependencies => simp [ofKind?, requires_iff, Option.map_eq_some_iff,
        typeNames?_eq_some_iff trimmed, @eq_comm _ requirement]
  | forbiddenDependencies => simp [ofKind?, requires_iff, Option.map_eq_some_iff,
        typeNames?_eq_some_iff trimmed, @eq_comm _ requirement]

end Requirement

end CloudPlan
