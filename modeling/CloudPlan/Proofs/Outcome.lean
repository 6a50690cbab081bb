import Mathlib.Data.List.Nodup
import Mathlib.Logic.Unique

/-!
# Outcomes in sequence

When a sequence of steps that may fail succeeds, each of its steps does.
-/

namespace CloudPlan

variable {ε α β : Type}

theorem ok_bind
    (value : α)
    (next : α → Except ε β) :
    ((Except.ok value : Except ε α) >>= next) = next value :=
  rfl

theorem error_bind
    (error : ε)
    (next : α → Except ε β) :
    ((Except.error error : Except ε α) >>= next) = .error error :=
  rfl

/-- A step and what follows it succeed exactly when both do. -/
theorem bind_eq_ok_iff
    {outcome : Except ε α}
    {next : α → Except ε β}
    {result : β} :
    (outcome >>= next) = .ok result ↔
      ∃ value, outcome = .ok value ∧ next value = .ok result := by
  cases outcome with
  | error error => simp [bind, Except.bind]
  | ok value => simp [bind, Except.bind]

/-- A check and what follows it succeed exactly when both do. -/
theorem check_bind_eq_ok_iff
    {check : Except ε Unit}
    {next : Unit → Except ε β}
    {result : β} :
    (check >>= next) = .ok result ↔ check = .ok () ∧ next () = .ok result := by
  rw [bind_eq_ok_iff]
  exact Unique.exists_iff

/-- A conversion of a successful step succeeds exactly when the step does. -/
theorem map_eq_ok_iff
    {outcome : Except ε α}
    {convert : α → β}
    {result : β} :
    outcome.map convert = .ok result ↔
      ∃ value, outcome = .ok value ∧ convert value = result := by
  cases outcome with
  | error error => simp [Except.map]
  | ok value => simp [Except.map]

theorem map_eq_error_iff
    {outcome : Except ε α}
    {convert : α → β}
    {error : ε} :
    outcome.map convert = .error error ↔ outcome = .error error := by
  cases outcome with
  | error error => simp [Except.map]
  | ok value => simp [Except.map]

theorem mapError_eq_ok_iff
    {ε' : Type}
    {outcome : Except ε α}
    {convert : ε → ε'}
    {result : α} :
    outcome.mapError convert = .ok result ↔ outcome = .ok result := by
  cases outcome with
  | error error => simp [Except.mapError]
  | ok value => simp [Except.mapError]

/-- Where every step succeeds with a value of some property, all of them do. -/
theorem exists_mapM_eq_ok
    {step : α → Except ε β}
    {property : β → Prop}
    {items : List α}
    (succeeds : ∀ item ∈ items, ∃ value, step item = .ok value ∧ property value) :
    ∃ values, items.mapM step = .ok values ∧ ∀ value ∈ values, property value := by
  induction items with
  | nil => exact ⟨[], rfl, by simp⟩
  | cons first rest inductionHypothesis =>
      obtain ⟨⟨value, isValue, holds⟩, restSucceeds⟩ := List.forall_mem_cons.1 succeeds
      obtain ⟨values, areValues, restHolds⟩ := inductionHypothesis restSucceeds
      refine ⟨value :: values, ?_, List.forall_mem_cons.2 ⟨holds, restHolds⟩⟩
      rw [List.mapM_cons, isValue, ok_bind, areValues]
      rfl

/-- Where every step succeeds, what the steps give is what those of them give that succeed with
something. -/
theorem filterMap_id_of_mapM_eq_ok
    {step : α → Except ε (Option β)}
    {items : List α}
    {given : List (Option β)}
    (succeeds : items.mapM step = .ok given) :
    given.filterMap id = items.filterMap fun item => (step item).toOption.join := by
  induction items generalizing given with
  | nil =>
      cases succeeds
      rfl
  | cons first rest inductionHypothesis =>
      rw [List.mapM_cons] at succeeds
      obtain ⟨value, isValue, succeeds⟩ := bind_eq_ok_iff.1 succeeds
      obtain ⟨values, areValues, isGiven⟩ := bind_eq_ok_iff.1 succeeds
      cases isGiven
      rw [List.filterMap_cons, List.filterMap_cons, inductionHypothesis areValues, isValue]
      rfl

/-- Where every item gives something, all items in turn give what is got from them. -/
theorem mapM_eq_some_filterMap
    {convert : α → Option β}
    {items : List α}
    (gives : ∀ item ∈ items, ∃ value, convert item = some value) :
    items.mapM convert = some (items.filterMap convert) := by
  induction items with
  | nil => rfl
  | cons first rest inductionHypothesis =>
      obtain ⟨⟨value, isValue⟩, restGives⟩ := List.forall_mem_cons.1 gives
      rw [List.mapM_cons, isValue, inductionHypothesis restGives, List.filterMap_cons_some isValue]
      rfl

/-- The value of an outcome is there exactly when the outcome succeeds with it. -/
theorem toOption_eq_some_iff
    {outcome : Except ε α}
    {value : α} :
    outcome.toOption = some value ↔ outcome = .ok value := by
  cases outcome with
  | error error => simp [Except.toOption]
  | ok value => simp [Except.toOption]

end CloudPlan
