/-!
# Dictionaries

Values under keys, with one value at most under a key.  The order in which the entries stand
means nothing: what is inserted comes first, whatever stood under its key before.
-/

namespace CloudPlan

/-- The first entry hides what stands under its key further behind. -/
theorem lookup_cons_eq_ite
    {α : Type}
    (key other : String)
    (value : α)
    (rest : List (String × α)) :
    ((key, value) :: rest).lookup other =
      if other = key then some value else rest.lookup other := by
  rw [List.lookup_cons]
  by_cases same : other = key
  · rw [if_pos same, beq_iff_eq.2 same]
  · rw [if_neg same, beq_false_of_ne same]

/-- Values under keys. -/
structure Dictionary (α : Type) where
  /-- The keys with their values. -/
  entries : List (String × α)
  /-- No key has two values. -/
  apart : (entries.map (·.1)).Nodup

namespace Dictionary

variable {α : Type}

/-- The dictionary without values. -/
def empty : Dictionary α := ⟨[], List.nodup_nil⟩

/-- The keys that have values. -/
def keys (dictionary : Dictionary α) : List String :=
  dictionary.entries.map (·.1)

/-- The number of values. -/
def size (dictionary : Dictionary α) : Nat :=
  dictionary.entries.length

/-- The value under a key. -/
def get? (dictionary : Dictionary α) (key : String) : Option α :=
  dictionary.entries.lookup key

theorem nodup_keys (dictionary : Dictionary α) : dictionary.keys.Nodup :=
  dictionary.apart

theorem size_eq (dictionary : Dictionary α) : dictionary.size = dictionary.keys.length := by
  rw [size, keys, List.length_map]

/-- The entries under other keys than a given one. -/
def others (dictionary : Dictionary α) (key : String) : List (String × α) :=
  dictionary.entries.filter (·.1 != key)

theorem map_others (dictionary : Dictionary α) (key : String) :
    (dictionary.others key).map (·.1) = dictionary.keys.filter (· != key) := by
  rw [others, keys, List.filter_map]
  rfl

/-- Inserts a value under a key, in place of the value that stood there. -/
def insert (dictionary : Dictionary α) (key : String) (value : α) : Dictionary α where
  entries := (key, value) :: dictionary.others key
  apart := by
    rw [List.map_cons, map_others, List.nodup_cons]
    exact ⟨by simp, dictionary.apart.filter _⟩

@[simp] theorem get?_empty (key : String) : (empty : Dictionary α).get? key = none := rfl

theorem keys_insert (dictionary : Dictionary α) (key : String) (value : α) :
    (dictionary.insert key value).keys = key :: dictionary.keys.filter (· != key) := by
  rw [keys, insert, List.map_cons, map_others]

/-- Under every other key the same value stands among the other entries. -/
theorem lookup_others
    (dictionary : Dictionary α)
    {key other : String}
    (different : other ≠ key) :
    (dictionary.others key).lookup other = dictionary.get? other := by
  rw [others, get?]
  induction dictionary.entries with
  | nil => rfl
  | cons entry rest inductionHypothesis =>
      obtain ⟨present, value⟩ := entry
      rw [List.filter_cons, lookup_cons_eq_ite]
      split
      next => rw [lookup_cons_eq_ite, inductionHypothesis]
      next replaced =>
        have isKey : present = key := by simpa using replaced
        rw [inductionHypothesis, if_neg (isKey ▸ different)]

/-- What is inserted stands under its key, and everything else as before. -/
theorem get?_insert (dictionary : Dictionary α) (key other : String) (value : α) :
    (dictionary.insert key value).get? other =
      if other = key then some value else dictionary.get? other := by
  rw [get?, insert, lookup_cons_eq_ite]
  split
  next => rfl
  next different => exact dictionary.lookup_others different

/-- A key has a value exactly when it is one of the keys. -/
theorem isSome_get?_iff {dictionary : Dictionary α} {key : String} :
    (dictionary.get? key).isSome ↔ key ∈ dictionary.keys := by
  rw [get?, keys]
  induction dictionary.entries with
  | nil => simp
  | cons entry rest inductionHypothesis =>
      obtain ⟨present, value⟩ := entry
      rw [lookup_cons_eq_ite, List.map_cons, List.mem_cons, ← inductionHypothesis]
      split
      next same => simp [same]
      next different => simp [different]

end Dictionary

end CloudPlan
