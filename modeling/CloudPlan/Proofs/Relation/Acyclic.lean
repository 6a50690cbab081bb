import Mathlib.Logic.Relation
import Mathlib.Order.WellFoundedSet

/-!
# Relations without cycles

A relation is acyclic when no chain of related points leads back to where it
starts.  Relations that map into acyclic ones are acyclic, points in which every
added step ends or starts add no cycle, and every finite collection has a point
that nothing else in it comes before.
-/

namespace CloudPlan

open Relation (TransGen)

variable {α β : Type} {relation larger : α → α → Prop}

/-- No chain of related points leads back to its start. -/
def Acyclic (relation : α → α → Prop) : Prop :=
  ∀ point, ¬ TransGen relation point point

namespace Acyclic

/-- A relation whose image lies in an acyclic relation is acyclic. -/
theorem of_map
    {image : β → β → Prop}
    (acyclic : Acyclic image)
    (map : α → β)
    (related : ∀ first second, relation first second → image (map first) (map second)) :
    Acyclic relation := by
  intro point cycle
  exact acyclic (map point) (TransGen.lift map related point point cycle)

/-- A part of an acyclic relation is acyclic. -/
theorem mono
    (acyclic : Acyclic larger)
    (related : ∀ first second, relation first second → larger first second) :
    Acyclic relation :=
  acyclic.of_map id related

/-- A relation that raises a rank is acyclic. -/
theorem of_rank
    (rank : α → Nat)
    (raises : ∀ first second, relation first second → rank first < rank second) :
    Acyclic relation := by
  have less : Acyclic fun first second : Nat => first < second := by
    intro point cycle
    rw [Relation.transGen_eq_self] at cycle
    exact Nat.lt_irrefl point cycle
  exact less.of_map rank raises

/-- Reversing every step of an acyclic relation gives an acyclic one. -/
theorem swap (acyclic : Acyclic relation) : Acyclic (Function.swap relation) := by
  intro point cycle
  exact acyclic point (Relation.transGen_swap.1 cycle)

/-- Steps into points that nothing leaves add no cycle. -/
theorem of_sinks
    (acyclic : Acyclic relation)
    (added : ∀ first second, larger first second →
      relation first second ∨ ∀ third, ¬ larger second third) :
    Acyclic larger := by
  -- A chain that goes on after its end cannot use a step into a sink.
  have within : ∀ first last, TransGen larger first last →
      ∀ next, larger last next → TransGen relation first last := by
    intro first last chain
    induction chain with
    | single step =>
        intro next leaves
        rcases added _ _ step with old | sink
        · exact TransGen.single old
        · exact absurd leaves (sink next)
    | tail _ step inductionHypothesis =>
        intro next leaves
        rcases added _ _ step with old | sink
        · exact (inductionHypothesis _ step).tail old
        · exact absurd leaves (sink next)
  intro point cycle
  obtain ⟨next, leaves, _⟩ := Relation.TransGen.head'_iff.1 cycle
  exact acyclic point (within point point cycle next leaves)

/-- Steps out of points that nothing enters add no cycle. -/
theorem of_sources
    (acyclic : Acyclic relation)
    (added : ∀ first second, larger first second →
      relation first second ∨ ∀ third, ¬ larger third first) :
    Acyclic larger :=
  (acyclic.swap.of_sinks fun second first step => added first second step).swap

/-- A nonempty finite collection has a point that no other of its points comes before. -/
theorem exists_source
    (acyclic : Acyclic relation)
    {points : List α}
    (nonempty : points ≠ []) :
    ∃ source ∈ points, ∀ point ∈ points, ¬ relation point source := by
  have : IsStrictOrder α (TransGen relation) :=
    { irrefl := acyclic, trans := fun _ _ _ => TransGen.trans }
  have wellFounded : {point | point ∈ points}.WellFoundedOn (TransGen relation) :=
    points.finite_toSet.wellFoundedOn
  obtain ⟨first, firstMember⟩ := List.exists_mem_of_ne_nil points nonempty
  obtain ⟨source, -, least⟩ := wellFounded.has_min Set.univ ⟨⟨first, firstMember⟩, trivial⟩
  refine ⟨source, source.2, ?_⟩
  intro point member before
  exact least ⟨point, member⟩ trivial (TransGen.single before)

end Acyclic

end CloudPlan
