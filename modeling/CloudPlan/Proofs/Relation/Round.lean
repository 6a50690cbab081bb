import Mathlib.Data.List.Chain
import Mathlib.Data.List.Nodup
import Mathlib.Logic.Relation

/-!
# Rounds

A round is a way along related points that comes back to where it starts, and to no
other point twice.  Each of its points lies on a cycle.  A map that keeps its points
apart and related makes a round of it again.
-/

namespace CloudPlan

open Relation (TransGen)

variable {α β : Type} {relation : α → α → Prop} {image : β → β → Prop} {path : List α}

/-- Related points one after the other, all of them different but the last one, which is the
first one again. -/
def IsRound (relation : α → α → Prop) (path : List α) : Prop :=
  ∃ start between, path = start :: between ++ [start] ∧ (start :: between).Nodup ∧
    path.IsChain relation

namespace IsRound

/-- From every point of a round a chain of related points leads back to it. -/
theorem on_cycle
    (round : IsRound relation path)
    {point : α}
    (member : point ∈ path) :
    TransGen relation point point := by
  obtain ⟨start, between, rfl, _, chain⟩ := round
  have leads : (start :: (between ++ [start])).Pairwise (TransGen relation) :=
    (chain.imp fun _ _ => TransGen.single).pairwise
  obtain ⟨fromStart, leadsBetween⟩ := List.pairwise_cons.1 leads
  have back : TransGen relation start start := fromStart start (by simp)
  have isPoint : point = start ∨ point ∈ between := by
    simpa [or_comm, or_assoc] using member
  rcases isPoint with rfl | isBetween
  · exact back
  · have toStart : TransGen relation point start :=
      (List.pairwise_append.1 leadsBetween).2.2 point isBetween start List.mem_cons_self
    exact toStart.trans (fromStart point (List.mem_append_left _ isBetween))

/-- Points that are mapped to different points make a round where they make related ones. -/
theorem map
    (round : IsRound relation path)
    (convert : α → β)
    (apart : ∀ first ∈ path, ∀ second ∈ path, convert first = convert second → first = second)
    (related : ∀ first second, relation first second → image (convert first) (convert second)) :
    IsRound image (path.map convert) := by
  obtain ⟨start, between, rfl, different, chain⟩ := round
  refine ⟨convert start, between.map convert, by simp, ?_,
    List.isChain_map_of_isChain convert related chain⟩
  rw [← List.map_cons]
  refine different.map_on fun first isFirst second isSecond => ?_
  exact apart first (List.mem_append_left _ isFirst) second (List.mem_append_left _ isSecond)

end IsRound

end CloudPlan
