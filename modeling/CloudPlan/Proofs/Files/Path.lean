import CloudPlan.Files.Output
import Mathlib.Data.List.Basic

/-!
# What paths lead along

The components of a path are its parts between slashes, read one by one, so the components of
a joined path are those of its two halves.  A path that leads nowhere but down has names for
components, but for a dot at its start.  Joined to a directory it leads, with all dots gone,
from the directory along these names.
-/

namespace CloudPlan.Path

/-! ## Parts -/

theorem parts_ne_nil (chars : List Char) : parts chars ≠ [] := by
  cases chars with
  | nil => simp [parts]
  | cons c rest =>
      rw [parts]
      split
      · simp
      · split <;> simp

theorem parts_eq_splitOn (chars : List Char) : parts chars = chars.splitOn '/' := by
  induction chars with
  | nil => rfl
  | cons c rest inductionHypothesis =>
      rw [parts, List.splitOn, List.splitOnP_cons_eq_if_modifyHead, ← List.splitOn,
        ← inductionHypothesis]
      by_cases isSlash : c = '/'
      · simp [isSlash]
      · cases restParts : parts rest with
        | nil => exact absurd restParts (parts_ne_nil rest)
        | cons part more => simp [isSlash]

/-- A slash between two texts separates their parts. -/
theorem parts_append (front back : List Char) :
    parts (front ++ '/' :: back) = parts front ++ parts back := by
  simp only [parts_eq_splitOn]
  exact List.splitOnP_append_cons front back (by simp)

theorem parts_intercalate
    {found : List (List Char)}
    (nonempty : found ≠ [])
    (noSlash : ∀ part ∈ found, '/' ∉ part) :
    parts (['/'].intercalate found) = found := by
  rw [parts_eq_splitOn]
  exact List.splitOn_intercalate '/' noSlash nonempty

theorem slash_not_mem_of_mem_parts
    {chars part : List Char}
    (member : part ∈ parts chars) :
    '/' ∉ part := by
  induction chars generalizing part with
  | nil => simp_all [parts]
  | cons c rest inductionHypothesis =>
      rw [parts] at member
      split at member
      next =>
        rcases List.mem_cons.1 member with rfl | later
        · exact List.not_mem_nil
        · exact inductionHypothesis later
      next notSlash =>
        cases restParts : parts rest with
        | nil => exact absurd restParts (parts_ne_nil rest)
        | cons first more =>
            rw [restParts] at member inductionHypothesis
            rcases List.mem_cons.1 member with rfl | later
            · exact List.not_mem_cons_of_ne_of_not_mem (Ne.symm notSlash)
                (inductionHypothesis List.mem_cons_self)
            · exact inductionHypothesis (List.mem_cons_of_mem first later)

/-- The first part of a path is empty, and not the only one, exactly when the path is absolute. -/
theorem parts_eq_nil_cons_cons_iff (chars : List Char) :
    (∃ second more, parts chars = [] :: second :: more) ↔ chars.head? = some '/' := by
  cases chars with
  | nil => simp [parts]
  | cons c rest =>
      rw [parts]
      by_cases isSlash : c = '/'
      · obtain ⟨first, more, restParts⟩ := List.exists_cons_of_ne_nil (parts_ne_nil rest)
        simp [isSlash, restParts]
      · cases restParts : parts rest with
        | nil => exact absurd restParts (parts_ne_nil rest)
        | cons first more => simp [isSlash]

/-! ## Components -/

/-- A text can be the name of an entry of a directory. -/
structure IsName (name : String) : Prop where
  /-- The text is not empty. -/
  nonempty : name ≠ ""
  /-- The text is not the dot for the directory itself. -/
  notCurrent : name ≠ "."
  /-- The text is not the two dots for what contains the directory. -/
  notParent : name ≠ ".."
  /-- The text is in one part. -/
  noSlash : '/' ∉ name.toList

/-- A component can stand behind the start of a path. -/
def Component.IsInner : Component → Prop
  | .root => False
  | .current => False
  | .parent => True
  | .normal name => IsName name

/-- A part is read as the component that is written so. -/
theorem component?_eq_some_iff
    {part : List Char}
    (noSlash : '/' ∉ part)
    (found : Component) :
    component? part = some found ↔ found.IsInner ∧ found.text.toList = part := by
  constructor
  · intro isFound
    unfold component? at isFound
    split at isFound
    next => contradiction
    next => contradiction
    next =>
      obtain rfl := Option.some.inj isFound
      exact ⟨trivial, rfl⟩
    next notEmpty notCurrent notParent =>
      obtain rfl := Option.some.inj isFound
      refine ⟨⟨?_, ?_, ?_, ?_⟩, String.toList_ofList⟩
      all_goals simp_all [← String.toList_inj]
  · rintro ⟨isInner, rfl⟩
    cases found with
    | root => contradiction
    | current => contradiction
    | parent => rfl
    | normal name =>
        obtain ⟨nonempty, notCurrent, notParent, _⟩ := isInner
        simp only [← String.toList_inj, ne_eq] at nonempty notCurrent notParent
        unfold component?
        split
        next isEmpty => exact absurd isEmpty nonempty
        next isCurrent => exact absurd isCurrent notCurrent
        next isParent => exact absurd isParent notParent
        next => rw [Component.text, String.ofList_toList]

/-- The components behind the start of a path. -/
def inner (path : String) : List Component :=
  (parts path.toList).filterMap component?

theorem components_eq (path : String) :
    components path = start (parts path.toList) ++ inner path := rfl

theorem isInner_of_mem_inner
    {path : String}
    {found : Component}
    (member : found ∈ inner path) :
    found.IsInner := by
  obtain ⟨part, isPart, isFound⟩ := List.mem_filterMap.1 member
  exact ((component?_eq_some_iff (slash_not_mem_of_mem_parts isPart) found).1 isFound).1

/-- A path starts with the root, with a dot, or with neither. -/
theorem start_cases (found : List (List Char)) :
    start found = [.root] ∨ start found = [.current] ∨ start found = [] := by
  unfold start
  split <;> simp

/-- The root is among the components of exactly the absolute paths. -/
theorem root_mem_components_iff (path : String) :
    .root ∈ components path ↔ isAbsolute path = true := by
  have notInner : Component.root ∉ inner path := isInner_of_mem_inner
  rw [components_eq, List.mem_append, or_iff_left notInner, isAbsolute, beq_iff_eq,
    ← parts_eq_nil_cons_cons_iff]
  unfold start
  split
  next isRooted => simp [isRooted]
  next isCurrent => simp [isCurrent]
  next notRooted _ => simpa using fun second more => notRooted second more

/-- Two dots are among the components of exactly the paths that have them as a part. -/
theorem parent_mem_components_iff (path : String) :
    .parent ∈ components path ↔ ['.', '.'] ∈ parts path.toList := by
  have notStart : Component.parent ∉ start (parts path.toList) := by
    rcases start_cases (parts path.toList) with isStart | isStart | isStart <;> simp [isStart]
  rw [components_eq, List.mem_append, or_iff_right notStart, inner, List.mem_filterMap]
  constructor
  · rintro ⟨part, isPart, isParent⟩
    obtain ⟨_, rfl⟩ := (component?_eq_some_iff (slash_not_mem_of_mem_parts isPart) _).1 isParent
    exact isPart
  · exact fun isPart => ⟨_, isPart, rfl⟩

/-- A path leads nowhere but down exactly when it is not empty and has neither the root nor two
dots for a component. -/
theorem isConfined_iff (path : String) :
    isConfined path = true ↔ path ≠ "" ∧ .root ∉ components path ∧ .parent ∉ components path := by
  rw [isConfined, Bool.and_eq_true, bne_iff_ne, List.all_eq_true]
  refine and_congr_right fun _ => ⟨fun confined => ⟨?_, ?_⟩, ?_⟩
  · intro member
    simpa [Component.isConfined] using confined _ member
  · intro member
    simpa [Component.isConfined] using confined _ member
  · rintro ⟨notRoot, notParent⟩ found member
    cases found with
    | root => exact absurd member notRoot
    | parent => exact absurd member notParent
    | current => rfl
    | normal name => rfl

/-! ## Joined paths -/

theorem start_append
    {front : List (List Char)}
    (nonempty : front ≠ [])
    {back other : List (List Char)}
    (backNonempty : back ≠ [])
    (otherNonempty : other ≠ []) :
    start (front ++ back) = start (front ++ other) := by
  obtain ⟨first, more, rfl⟩ := List.exists_cons_of_ne_nil nonempty
  obtain ⟨second, rest, isRest⟩ := List.exists_cons_of_ne_nil
    (List.append_ne_nil_of_right_ne_nil more backNonempty)
  obtain ⟨third, others, areOthers⟩ := List.exists_cons_of_ne_nil
    (List.append_ne_nil_of_right_ne_nil more otherNonempty)
  rw [List.cons_append, List.cons_append, isRest, areOthers]
  unfold start
  split <;> simp_all

theorem start_parts_append
    {chars : List Char}
    (nonempty : chars ≠ [])
    (back : List (List Char)) :
    start (parts chars ++ back) = start (parts chars) := by
  cases found : parts chars with
  | nil => exact absurd found (parts_ne_nil chars)
  | cons first more =>
      cases more with
      | nil =>
          have notEmpty : first ≠ [] := by
            rintro rfl
            have whole : ['/'].intercalate (chars.splitOn '/') = chars :=
              List.intercalate_splitOn '/'
            rw [← parts_eq_splitOn, found] at whole
            exact nonempty whole.symm
          rw [List.singleton_append]
          unfold start
          split <;> simp_all
      | cons second rest =>
          exact start_append (List.cons_ne_nil first []) (List.cons_ne_nil second (rest ++ back))
            (List.cons_ne_nil second rest)

/-- The components of a path joined to a directory are those of the directory and, behind them,
those of the path but for a dot at its start. -/
theorem components_join
    {directory path : String}
    (nonempty : directory ≠ "")
    (relative : isAbsolute path = false) :
    components (join directory path) = components directory ++ inner path := by
  have direct : ¬(isAbsolute path = true ∨ directory = "") := by simp [relative, nonempty]
  rw [join, if_neg direct]
  by_cases ends : directory.toList.getLast? = some '/'
  · obtain ⟨front, isDirectory⟩ := List.getLast?_eq_some_iff.1 ends
    have joined : (directory ++ path).toList = front ++ '/' :: path.toList := by
      simp [isDirectory]
    have directoryParts : parts directory.toList = parts front ++ [[]] := by
      rw [isDirectory, parts_append]
      rfl
    rw [if_pos ends, components_eq, components_eq, inner, inner, joined, parts_append,
      directoryParts, List.filterMap_append, List.filterMap_append,
      start_append (parts_ne_nil front) (parts_ne_nil path.toList) (List.cons_ne_nil [] [])]
    simp [component?, inner]
  · have joined : (directory ++ "/" ++ path).toList = directory.toList ++ '/' :: path.toList := by
      simp
    have notEmpty : directory.toList ≠ [] := mt String.toList_eq_nil_iff.1 nonempty
    rw [if_neg ends, components_eq, components_eq, inner, inner, joined, parts_append,
      start_parts_append notEmpty, List.filterMap_append, List.append_assoc]
    rfl

/-! ## Names along a path -/

/-- The name that a component is. -/
def Component.name? : Component → Option String
  | .normal name => some name
  | _ => none

/-- The names among the components of a path. -/
def names (path : String) : List String :=
  (components path).filterMap Component.name?

theorem isName_of_mem_names
    {path name : String}
    (member : name ∈ names path) :
    IsName name := by
  obtain ⟨found, isComponent, isFound⟩ := List.mem_filterMap.1 member
  cases found with
  | normal other =>
      obtain rfl := Option.some.inj isFound
      rw [components_eq, List.mem_append] at isComponent
      have notStart : Component.normal other ∉ start (parts path.toList) := by
        rcases start_cases (parts path.toList) with isStart | isStart | isStart <;> simp [isStart]
      exact isInner_of_mem_inner (isComponent.resolve_left notStart)
  | root => contradiction
  | current => contradiction
  | parent => contradiction

/-- Without two dots there are nothing but names behind the start of a path. -/
theorem inner_eq_map_names
    {path : String}
    (noParent : .parent ∉ components path) :
    inner path = (names path).map .normal := by
  have fromInner : names path = (inner path).filterMap Component.name? := by
    rw [names, components_eq, List.filterMap_append]
    rcases start_cases (parts path.toList) with isStart | isStart | isStart <;>
      simp [isStart, Component.name?]
  have isNamed : ∀ found ∈ inner path, found.name?.map Component.normal = some found := by
    intro found member
    cases found with
    | normal name => rfl
    | root => exact absurd (isInner_of_mem_inner member) id
    | current => exact absurd (isInner_of_mem_inner member) id
    | parent => exact absurd (List.mem_append_right _ member) noParent
  rw [fromInner, List.map_filterMap, List.filterMap_congr isNamed, List.filterMap_some]

/-- The components of a path that leads nowhere but down stand, when it is joined to a directory,
behind those of the directory.  Without a directory a dot at the start remains. -/
theorem exists_components_join
    (directory : String)
    {path : String}
    (confined : isConfined path = true) :
    ∃ front, components (join directory path) = front ++ (names path).map .normal ∧
      (front = components directory ∨ front = .current :: components directory) := by
  obtain ⟨_, notRoot, notParent⟩ := (isConfined_iff path).1 confined
  by_cases isEmpty : directory = ""
  · refine ⟨start (parts path.toList), ?_, ?_⟩
    · rw [join, if_pos (Or.inr isEmpty), components_eq, inner_eq_map_names notParent]
    · have nothing : components directory = [] := by rw [isEmpty]; rfl
      rw [components_eq] at notRoot
      rcases start_cases (parts path.toList) with isStart | isStart | isStart
      · simp [isStart] at notRoot
      · exact Or.inr (by rw [isStart, nothing])
      · exact Or.inl (by rw [isStart, nothing])
  · have relative : isAbsolute path = false := by
      rw [← Bool.not_eq_true]
      exact fun absolute => notRoot ((root_mem_components_iff path).2 absolute)
    exact ⟨components directory,
      by rw [components_join isEmpty relative, inner_eq_map_names notParent], Or.inl rfl⟩

/-- The way to a place, nearest component first, after one more component: a dot leads nowhere, and
two dots lead back unless there is nothing to go back from. -/
def Component.after (way : List Component) : Component → List Component
  | .root => [.root]
  | .current => way
  | .parent =>
    match way with
    | .normal _ :: before => before
    | .root :: _ => way
    | _ => .parent :: way
  | .normal name => .normal name :: way

/-- The components of a path without the dots that can be done without. -/
def normalize (path : String) : List Component :=
  ((components path).foldl Component.after []).reverse

theorem foldl_after_names
    (found : List String)
    (way : List Component) :
    (found.map Component.normal).foldl Component.after way =
      (found.map Component.normal).reverse ++ way := by
  induction found generalizing way with
  | nil => rfl
  | cons name rest inductionHypothesis => simp [Component.after, inductionHypothesis]

/-- A path that leads nowhere but down leads, joined to a directory, from the directory along its
names. -/
theorem normalize_join
    (directory : String)
    {path : String}
    (confined : isConfined path = true) :
    normalize (join directory path) = normalize directory ++ (names path).map .normal := by
  obtain ⟨front, joined, isFront⟩ := exists_components_join directory confined
  have sameWay : front.foldl Component.after [] =
      (components directory).foldl Component.after [] := by
    rcases isFront with rfl | rfl <;> rfl
  rw [normalize, normalize, joined, List.foldl_append, sameWay, foldl_after_names,
    List.reverse_append, List.reverse_reverse]

/-! ## Paths of components -/

theorem Component.IsInner.noSlash
    {found : Component}
    (isInner : found.IsInner) :
    '/' ∉ found.text.toList := by
  cases found with
  | root => contradiction
  | current => contradiction
  | parent => decide
  | normal name => exact IsName.noSlash isInner

theorem Component.IsInner.component?_text
    {found : Component}
    (isInner : found.IsInner) :
    component? found.text.toList = some found :=
  (component?_eq_some_iff isInner.noSlash found).2 ⟨isInner, rfl⟩

theorem filterMap_component?_text
    {found : List Component}
    (areInner : ∀ component ∈ found, component.IsInner) :
    (found.map (·.text.toList)).filterMap component? = found := by
  rw [List.filterMap_map]
  have readBack : ∀ component ∈ found,
      (component? ∘ (·.text.toList)) component = some component :=
    fun component member => (areInner component member).component?_text
  rw [List.filterMap_congr readBack, List.filterMap_some]

/-- What stands behind the start of a path makes a path without a start. -/
theorem start_text
    {found : List Component}
    (areInner : ∀ component ∈ found, component.IsInner) :
    start (found.map (·.text.toList)) = [] := by
  cases found with
  | nil => rfl
  | cons first rest =>
      have isRead := (areInner first List.mem_cons_self).component?_text
      rw [List.map_cons]
      unfold start
      split
      next isRoot =>
        obtain ⟨isEmpty, _⟩ := List.cons_eq_cons.1 isRoot
        rw [isEmpty] at isRead
        contradiction
      next isCurrent =>
        obtain ⟨isDot, _⟩ := List.cons_eq_cons.1 isCurrent
        rw [isDot] at isRead
        contradiction
      next => rfl

/-- Components that are written are read part by part. -/
theorem components_ofComponents_eq
    {found : List Component}
    (nonempty : found ≠ [])
    (notRoot : found ≠ [.root])
    (noSlash : ∀ component ∈ found, '/' ∉ component.text.toList) :
    components (ofComponents found) =
      start (found.map (·.text.toList)) ++ (found.map (·.text.toList)).filterMap component? := by
  have written : ofComponents found = "/".intercalate (found.map (·.text)) := by
    unfold ofComponents
    split
    next => exact absurd rfl notRoot
    next => rfl
  have areParts : parts (ofComponents found).toList = found.map (·.text.toList) := by
    rw [written, String.toList_intercalate, List.map_map]
    refine parts_intercalate (by simpa using nonempty) ?_
    rintro part isPart
    obtain ⟨component, member, rfl⟩ := List.mem_map.1 isPart
    exact noSlash component member
  rw [components_eq, inner, areParts]

/-- The components that a path begins with are the components of the path that they make. -/
theorem components_ofComponents
    {path : String}
    {found : List Component}
    (nonempty : found ≠ [])
    (begins : found <+: components path) :
    components (ofComponents found) = found := by
  have fromInner : ∀ rest, rest <+: inner path → ∀ component ∈ rest, component.IsInner :=
    fun rest restBegins component member => isInner_of_mem_inner (restBegins.subset member)
  rw [components_eq] at begins
  rcases start_cases (parts path.toList) with isStart | isStart | isStart
  all_goals rw [isStart] at begins
  case inl =>
    obtain ⟨rest, rfl, restBegins⟩ := (List.prefix_cons_iff.1 begins).resolve_left nonempty
    have areInner := fromInner rest restBegins
    cases rest with
    | nil => rfl
    | cons first more =>
        have noSlash : ∀ component ∈ .root :: first :: more, '/' ∉ component.text.toList :=
          List.forall_mem_cons.2 ⟨by decide, fun other member => (areInner other member).noSlash⟩
        rw [components_ofComponents_eq nonempty (by simp) noSlash]
        change [.root] ++ ((first :: more).map (·.text.toList)).filterMap component? = _
        rw [filterMap_component?_text areInner]
        rfl
  case inr.inl =>
    obtain ⟨rest, rfl, restBegins⟩ := (List.prefix_cons_iff.1 begins).resolve_left nonempty
    have areInner := fromInner rest restBegins
    have noSlash : ∀ component ∈ .current :: rest, '/' ∉ component.text.toList :=
      List.forall_mem_cons.2 ⟨by decide, fun other member => (areInner other member).noSlash⟩
    rw [components_ofComponents_eq nonempty (by simp) noSlash]
    change [.current] ++ (rest.map (·.text.toList)).filterMap component? = _
    rw [filterMap_component?_text areInner]
    rfl
  case inr.inr =>
    have areInner := fromInner found begins
    have notRoot : found ≠ [.root] := by
      rintro rfl
      exact areInner .root List.mem_cons_self
    rw [components_ofComponents_eq nonempty notRoot fun component member =>
      (areInner component member).noSlash, start_text areInner, filterMap_component?_text areInner,
      List.nil_append]

/-! ## Directories on the way -/

/-- A path leads to a directory on the way to another place. -/
structure IsAbove (ancestor path : String) : Prop where
  /-- The path leads somewhere. -/
  nonempty : components ancestor ≠ []
  /-- The way to the place begins with it, and goes on. -/
  begins : components ancestor <+: (components path).dropLast

theorem isAbove_ofComponents
    {path : String}
    {found : List Component}
    (nonempty : found ≠ [])
    (begins : found <+: (components path).dropLast) :
    IsAbove (ofComponents found) path := by
  have isRead := components_ofComponents nonempty (begins.trans (List.dropLast_prefix _))
  constructor
  · rwa [isRead]
  · rwa [isRead]

end CloudPlan.Path
