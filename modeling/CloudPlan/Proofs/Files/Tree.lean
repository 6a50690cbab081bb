import CloudPlan.Dictionary
import CloudPlan.Files.Tree
import CloudPlan.Proofs.Files.Path
import CloudPlan.Proofs.Outcome

/-!
# What changes in a tree

A tree that is set at one place holds what it held at all other places.  So making a directory
changes nothing but that there is a directory where nothing was, and writing a file nothing but
what the file holds.
-/

namespace CloudPlan.FileTree

/-! ## Entries -/

/-- An entry that is set is found by its name, and all others as before. -/
theorem lookup_setEntry
    (name other : String)
    (entry : FileTree)
    (entries : List (String × FileTree)) :
    (setEntry name entry entries).lookup other =
      if other = name then some entry else entries.lookup other := by
  induction entries with
  | nil => rw [setEntry, lookup_cons_eq_ite]
  | cons first rest inductionHypothesis =>
      obtain ⟨key, held⟩ := first
      rw [setEntry]
      split
      next => rw [lookup_cons_eq_ite]
      next =>
        split
        next isKey =>
          rw [lookup_cons_eq_ite, lookup_cons_eq_ite, isKey]
          split_ifs <;> rfl
        next different =>
          rw [lookup_cons_eq_ite, lookup_cons_eq_ite, inductionHypothesis]
          by_cases isName : other = name
          · rw [if_pos isName, if_pos isName, if_neg (isName ▸ different)]
          · rw [if_neg isName, if_neg isName]

/-! ## Places -/

@[simp] theorem find_nil (tree : FileTree) : tree.find [] = .ok tree := by
  rw [find]

/-- What names lead to is found step by step. -/
theorem find_append
    (tree : FileTree)
    (front back : List String) :
    tree.find (front ++ back) = tree.find front >>= (·.find back) := by
  induction front generalizing tree with
  | nil => simp [ok_bind]
  | cons name rest inductionHypothesis =>
      cases tree with
      | file content => rfl
      | directory entries =>
          rw [List.cons_append, find, find]
          split
          next => rfl
          next =>
            split
            next => rfl
            next entry _ => exact inductionHypothesis entry

/-- What a tree holds at a place. -/
inductive Held where
  | nothing
  | directory
  | file (content : String)
deriving DecidableEq

/-- What is held at the top of what was found. -/
def heldOf : Except FileError FileTree → Held
  | .error _ => .nothing
  | .ok (directory _) => .directory
  | .ok (file content) => .file content

/-- What a tree holds where names lead to. -/
def held (tree : FileTree) (names : List String) : Held :=
  heldOf (tree.find names)

theorem held_cons
    (entries : List (String × FileTree))
    (name : String)
    (rest : List String) :
    (directory entries).held (name :: rest) =
      if longestName < name.utf8ByteSize then .nothing
      else ((entries.lookup name).map (·.held rest)).getD .nothing := by
  rw [held, find]
  split
  next => rfl
  next => cases entries.lookup name <;> rfl

theorem set_cons
    (entries : List (String × FileTree))
    (name : String)
    {rest : List String}
    (goesOn : rest ≠ [])
    (entry : FileTree) :
    (directory entries).set (name :: rest) entry =
      match entries.lookup name with
      | none => directory entries
      | some inside => directory (setEntry name (inside.set rest entry) entries) := by
  cases rest with
  | nil => contradiction
  | cons next more => rfl

/-- Where names lead on into a directory, the first of them leads to an entry. -/
theorem exists_entry_of_find_cons
    {tree inside : FileTree}
    {name : String}
    {rest : List String}
    (leads : tree.find (name :: rest) = .ok inside) :
    ∃ entries entry, tree = directory entries ∧ entries.lookup name = some entry ∧
      name.utf8ByteSize ≤ longestName ∧ entry.find rest = .ok inside := by
  cases tree with
  | file content => contradiction
  | directory entries =>
      rw [find] at leads
      split at leads
      next => contradiction
      next fits =>
        split at leads
        next => contradiction
        next entry isEntry => exact ⟨entries, entry, rfl, isEntry, Nat.not_lt.1 fits, leads⟩

section Setting

variable {tree entry : FileTree} {front : List String} {name : String}
  {entries : List (String × FileTree)}

/-- What is set is found where it is set, and all else as before. -/
theorem held_set
    (leads : tree.find front = .ok (directory entries))
    (fits : name.utf8ByteSize ≤ longestName)
    (names : List String) :
    (tree.set (front ++ [name]) entry).held names =
      if front ++ [name] <+: names then entry.held (names.drop (front.length + 1))
      else tree.held names := by
  induction front generalizing tree names with
  | nil =>
      rw [find_nil] at leads
      obtain rfl := Except.ok.inj leads
      rw [List.nil_append, set]
      cases names with
      | nil => simp [held, heldOf]
      | cons first more =>
          rw [held_cons, held_cons, lookup_setEntry]
          by_cases same : first = name
          · subst same
            simp [Nat.not_lt.2 fits]
          · simp [same, Ne.symm same]
  | cons first rest inductionHypothesis =>
      obtain ⟨others, inside, rfl, isInside, firstFits, leadsOn⟩ := exists_entry_of_find_cons leads
      rw [List.cons_append, set_cons others first (by simp), isInside]
      cases names with
      | nil => simp [held, heldOf]
      | cons next more =>
          dsimp only
          rw [held_cons, held_cons, lookup_setEntry]
          by_cases same : next = first
          · subst same
            rw [if_pos rfl, isInside, Option.map_some, Option.map_some, Option.getD_some,
              Option.getD_some, inductionHypothesis leadsOn more]
            simp [Nat.not_lt.2 firstFits]
          · simp [same, Ne.symm same]

/-- Below a place where there is no directory there is nothing. -/
theorem held_below
    {names : List String}
    (notDirectory : tree.held names ≠ .directory)
    (next : String)
    (more : List String) :
    tree.held (names ++ next :: more) = .nothing := by
  rw [held] at notDirectory
  rw [held, find_append]
  cases found : tree.find names with
  | error error => rfl
  | ok inside =>
      cases inside with
      | file content => rfl
      | directory entries =>
          rw [found] at notDirectory
          exact absurd rfl notDirectory

/-- Setting something without entries, where there is no directory, changes one place. -/
theorem held_set_leaf
    (leads : tree.find front = .ok (directory entries))
    (fits : tree.find (front ++ [name]) ≠ .error .nameTooLong)
    (notDirectory : tree.held (front ++ [name]) ≠ .directory)
    (leaf : ∀ next more, entry.held (next :: more) = .nothing)
    (names : List String) :
    (tree.set (front ++ [name]) entry).held names =
      if names = front ++ [name] then entry.held [] else tree.held names := by
  have isShort : name.utf8ByteSize ≤ longestName := by
    by_contra isLong
    apply fits
    rw [find_append, leads, ok_bind, find, if_pos (Nat.lt_of_not_le isLong)]
  rw [held_set leads isShort]
  by_cases below : front ++ [name] <+: names
  · obtain ⟨more, rfl⟩ := below
    have rest : (front ++ [name] ++ more).drop (front.length + 1) = more :=
      List.drop_left' (by simp)
    rw [if_pos (List.prefix_append _ _), rest]
    cases more with
    | nil => simp
    | cons next more => rw [leaf, held_below notDirectory, if_neg (by simp)]
  · have different : names ≠ front ++ [name] := by
      rintro rfl
      exact below (List.prefix_refl _)
    rw [if_neg below, if_neg different]

end Setting

/-! ## Changes -/

variable {tree after : FileTree} {path content : String}

/-- A directory is made where nothing was, and nothing else changes. -/
theorem held_of_withDirectory
    (made : tree.withDirectory path = .ok after) :
    ∃ names, namesOf path = .ok names ∧ tree.held names = .nothing ∧
      ∀ other, after.held other = if other = names then .directory else tree.held other := by
  obtain ⟨names, areNames, made⟩ := bind_eq_ok_iff.1 made
  refine ⟨names, areNames, ?_⟩
  split at made
  next => contradiction
  next missing =>
    have nothing : tree.held names = .nothing := by rw [held, missing, heldOf]
    refine ⟨nothing, ?_⟩
    obtain ⟨container, leads, made⟩ := bind_eq_ok_iff.1 made
    split at made
    next entries =>
      obtain rfl := Except.ok.inj made
      rcases List.eq_nil_or_concat' names with rfl | ⟨front, name, rfl⟩
      · contradiction
      · rw [List.dropLast_concat] at leads
        refine held_set_leaf leads (by simp [missing]) (by simp [nothing]) ?_
        intro next more
        rw [empty, held_cons]
        split <;> rfl
    next => contradiction
  next => contradiction

/-- A file is written where no directory was, and nothing else changes. -/
theorem held_of_withFile
    (written : tree.withFile path content = .ok after) :
    ∃ names, namesOf path = .ok names ∧ tree.held names ≠ .directory ∧
      ∀ other, after.held other = if other = names then .file content else tree.held other := by
  obtain ⟨names, areNames, written⟩ := bind_eq_ok_iff.1 written
  refine ⟨names, areNames, ?_⟩
  obtain ⟨container, leads, written⟩ := bind_eq_ok_iff.1 written
  split at written
  next => contradiction
  next entries =>
    split at written
    next =>
      obtain ⟨_, _, written⟩ := bind_eq_ok_iff.1 written
      contradiction
    next hasName =>
      split at written
      next => contradiction
      next =>
        have goesOn : names ≠ [] := by
          rintro rfl
          simp at hasName
        have changes : tree.held names ≠ .directory → tree.find names ≠ .error .nameTooLong →
            ∀ other, (tree.set names (file content)).held other =
              if other = names then .file content else tree.held other := by
          intro notDirectory fits
          obtain ⟨front, name, rfl⟩ := (List.eq_nil_or_concat' names).resolve_left goesOn
          rw [List.dropLast_concat] at leads
          exact held_set_leaf leads fits notDirectory fun _ _ => rfl
        split at written
        next => contradiction
        next isFile =>
          obtain rfl := Except.ok.inj written
          have notDirectory : tree.held names ≠ .directory := by simp [held, heldOf, isFile]
          exact ⟨notDirectory, changes notDirectory (by simp [isFile])⟩
        next missing =>
          obtain rfl := Except.ok.inj written
          have notDirectory : tree.held names ≠ .directory := by simp [held, heldOf, missing]
          exact ⟨notDirectory, changes notDirectory (by simp [missing])⟩
        next => contradiction

end CloudPlan.FileTree
