import Mathlib.Data.List.Nodup

/-!
# Looking up by name

What is found in a table stands there.  In a list whose members are named apart, what
is found under a name is the one member of that name.
-/

namespace CloudPlan

variable {α : Type} {members : List α} {name : α → String}

/-- What is found under a key stands in the table. -/
theorem mem_of_lookup_eq_some
    {table : List (String × α)}
    {key : String}
    {value : α}
    (found : table.lookup key = some value) :
    (key, value) ∈ table := by
  obtain ⟨before, after, rfl, _⟩ := List.lookup_eq_some_iff.1 found
  exact List.mem_append_right _ List.mem_cons_self

/-- In a table with different keys a key leads to exactly what stands under it. -/
theorem lookup_eq_some_iff_of_apart
    {table : List (String × α)}
    (apart : (table.map (·.1)).Nodup)
    {key : String}
    {value : α} :
    table.lookup key = some value ↔ (key, value) ∈ table := by
  constructor
  · exact mem_of_lookup_eq_some
  · intro stands
    cases found : table.lookup key with
    | none =>
        have absent := List.lookup_eq_none_iff.1 found _ stands
        simp at absent
    | some other =>
        have isOther := mem_of_lookup_eq_some found
        have same := List.inj_on_of_nodup_map apart isOther stands rfl
        exact congrArg some (congrArg Prod.snd same)

/-- A name leads to a member exactly when it is the member's own. -/
theorem find?_name_eq_some_iff
    (apart : (members.map name).Nodup)
    {wanted : String}
    {member : α} :
    members.find? (fun other => name other == wanted) = some member ↔
      member ∈ members ∧ name member = wanted := by
  constructor
  · intro found
    exact ⟨List.mem_of_find?_eq_some found, by simpa using List.find?_some found⟩
  · rintro ⟨isMember, rfl⟩
    cases found : members.find? (fun other => name other == name member) with
    | none =>
        rw [List.find?_eq_none] at found
        exact absurd (beq_self_eq_true (name member)) (found member isMember)
    | some first =>
        have sameName : name first = name member := by simpa using List.find?_some found
        rw [List.inj_on_of_nodup_map apart (List.mem_of_find?_eq_some found) isMember sameName]

/-- A name leads nowhere exactly when no member has it. -/
theorem find?_name_eq_none_iff
    {wanted : String} :
    members.find? (fun other => name other == wanted) = none ↔ wanted ∉ members.map name := by
  simp only [List.find?_eq_none, List.mem_map, beq_iff_eq, not_exists, not_and]

end CloudPlan
