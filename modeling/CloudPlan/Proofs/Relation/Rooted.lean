import CloudPlan.Proofs.Relation.Acyclic

/-!
# Following parents

A parent function gives every point at most one parent.  A point is rooted when
following parents from it ends.  Points on a cycle are not rooted, so a parent
function all of whose points are rooted has no cycle.
-/

namespace CloudPlan

open Relation (TransGen)

variable {α : Type} {parent? other? : α → Option α}

/-- Following parents from a point ends at a point without one. -/
inductive Rooted (parent? : α → Option α) : α → Prop
  | root {point : α} : parent? point = none → Rooted parent? point
  | step {point parent : α} :
      parent? point = some parent → Rooted parent? parent → Rooted parent? point

/-- A step from a point to its parent. -/
def StepsTo (parent? : α → Option α) (point parent : α) : Prop :=
  parent? point = some parent

namespace Rooted

/-- A rooted point lies on no cycle of parents. -/
theorem not_on_cycle
    {point : α}
    (rooted : Rooted parent? point) :
    ¬ TransGen (StepsTo parent?) point point := by
  induction rooted with
  | root isRoot =>
      intro cycle
      obtain ⟨parent, step, _⟩ := Relation.TransGen.head'_iff.1 cycle
      rw [StepsTo, isRoot] at step
      contradiction
  | step isParent _ inductionHypothesis =>
      intro cycle
      obtain ⟨next, step, back⟩ := Relation.TransGen.head'_iff.1 cycle
      have same : next = _ := Option.some.inj (step.symm.trans isParent)
      subst same
      exact inductionHypothesis (TransGen.tail' back isParent)

/-- A parent function all of whose points are rooted has no cycle. -/
theorem acyclic
    (rooted : ∀ point parent, parent? point = some parent → Rooted parent? point) :
    Acyclic (StepsTo parent?) := by
  intro point cycle
  obtain ⟨parent, step, _⟩ := Relation.TransGen.head'_iff.1 cycle
  exact (rooted point parent step).not_on_cycle cycle

/-- Rootedness depends only on the parents inside a collection that parents stay in. -/
theorem congr
    {members : List α}
    (closed : ∀ point ∈ members, ∀ parent, parent? point = some parent → parent ∈ members)
    (same : ∀ point ∈ members, other? point = parent? point)
    {point : α}
    (rooted : Rooted parent? point)
    (member : point ∈ members) :
    Rooted other? point := by
  induction rooted with
  | root isRoot => exact root ((same _ member).trans isRoot)
  | step isParent _ inductionHypothesis =>
      exact step ((same _ member).trans isParent)
        (inductionHypothesis (closed _ member _ isParent))

end Rooted

end CloudPlan
