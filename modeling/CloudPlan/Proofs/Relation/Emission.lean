import Mathlib.Data.List.Basic

/-!
# Lists that report on lists

A list reports on another when it holds, in order, what there is to report on each
member, and nothing else.
-/

namespace CloudPlan

variable {α β : Type} {reports : α → β → Prop}

/-- Results in order: one for each item on which there is something to report, none for the
others. -/
inductive Emits (reports : α → β → Prop) : List α → List β → Prop
  | nil : Emits reports [] []
  /-- An item with something to report on it. -/
  | reported
      {item : α}
      {result : β}
      {items : List α}
      {results : List β}
      (report : reports item result)
      (rest : Emits reports items results) :
      Emits reports (item :: items) (result :: results)
  /-- An item with nothing to report on it. -/
  | silent
      {item : α}
      {items : List α}
      {results : List β}
      (nothing : ∀ result, ¬ reports item result)
      (rest : Emits reports items results) :
      Emits reports (item :: items) results

namespace Emits

theorem append
    {items others : List α}
    {results otherResults : List β}
    (emits : Emits reports items results)
    (emitsOthers : Emits reports others otherResults) :
    Emits reports (items ++ others) (results ++ otherResults) := by
  induction emits with
  | nil => exact emitsOthers
  | reported report _ inductionHypothesis => exact .reported report inductionHypothesis
  | silent nothing _ inductionHypothesis => exact .silent nothing inductionHypothesis

/-- Where there is nothing to report on any item, nothing is reported. -/
theorem nothing
    {items : List α}
    (none : ∀ item ∈ items, ∀ result, ¬ reports item result) :
    Emits reports items [] := by
  induction items with
  | nil => exact .nil
  | cons first rest inductionHypothesis =>
      obtain ⟨noneFirst, noneRest⟩ := List.forall_mem_cons.1 none
      exact .silent noneFirst (inductionHypothesis noneRest)

/-- Reports on the parts that items expand to are put together in order of the items. -/
theorem flatMap
    {γ : Type}
    {expand : γ → List α}
    {emit : γ → List β}
    {items : List γ}
    (emits : ∀ item ∈ items, Emits reports (expand item) (emit item)) :
    Emits reports (items.flatMap expand) (items.flatMap emit) := by
  induction items with
  | nil => exact .nil
  | cons first rest inductionHypothesis =>
      obtain ⟨emitsFirst, emitsRest⟩ := List.forall_mem_cons.1 emits
      rw [List.flatMap_cons, List.flatMap_cons]
      exact emitsFirst.append (inductionHypothesis emitsRest)

/-- Items and results may be renamed where what is reported stays the same. -/
theorem map
    {γ δ : Type}
    {renamed : γ → δ → Prop}
    {item : α → γ}
    {result : β → δ}
    (same : ∀ source target, renamed (item source) target ↔
      ∃ reported, reports source reported ∧ result reported = target)
    {items : List α}
    {results : List β}
    (emits : Emits reports items results) :
    Emits renamed (items.map item) (results.map result) := by
  induction emits with
  | nil => exact .nil
  | reported report _ inductionHypothesis =>
      exact .reported ((same _ _).2 ⟨_, report, rfl⟩) inductionHypothesis
  | silent nothing _ inductionHypothesis =>
      refine .silent (fun target renames => ?_) inductionHypothesis
      obtain ⟨reported, report, _⟩ := (same _ _).1 renames
      exact nothing reported report

/-- Reports that are computed item by item. -/
theorem filterMap
    {report? : α → Option β}
    {items : List α}
    (computed : ∀ item ∈ items, ∀ result, reports item result ↔ report? item = some result) :
    Emits reports items (items.filterMap report?) := by
  induction items with
  | nil => exact .nil
  | cons first rest inductionHypothesis =>
      obtain ⟨computedFirst, computedRest⟩ := List.forall_mem_cons.1 computed
      cases report : report? first with
      | none =>
          rw [List.filterMap_cons_none report]
          refine .silent (fun result reported => ?_) (inductionHypothesis computedRest)
          rw [computedFirst, report] at reported
          contradiction
      | some result =>
          rw [List.filterMap_cons_some report]
          exact .reported ((computedFirst result).2 report) (inductionHypothesis computedRest)

/-- Where there is at most one thing to report on each item, only one list reports on a list. -/
theorem unique
    (single : ∀ item first second, reports item first → reports item second → first = second)
    {items : List α}
    {results others : List β}
    (emits : Emits reports items results)
    (emitsOthers : Emits reports items others) :
    results = others := by
  induction emits generalizing others with
  | nil =>
      cases emitsOthers with
      | nil => rfl
  | reported report _ inductionHypothesis =>
      cases emitsOthers with
      | reported other rest => rw [single _ _ _ report other, inductionHypothesis rest]
      | silent nothing _ => exact absurd report (nothing _)
  | silent nothing _ inductionHypothesis =>
      cases emitsOthers with
      | reported other _ => exact absurd other (nothing _)
      | silent _ rest => exact inductionHypothesis rest

end Emits

end CloudPlan
