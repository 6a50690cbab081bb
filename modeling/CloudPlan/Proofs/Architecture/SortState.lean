import CloudPlan.Architecture.Order
import Mathlib.Data.List.Perm.Subperm

/-!
# How far a sort has come

At every moment the pending count of a place is the number of edges into it from
places that are not placed, and the ready places are those that are not placed and
have none pending.  Placing one ready place keeps this, and so does a whole run.
-/

namespace CloudPlan.Architecture.SortState

/-! ## Releasing places -/

@[simp] theorem mem_insertAscending
    (place other : Nat)
    (places : List Nat) :
    other ∈ insertAscending place places ↔ other = place ∨ other ∈ places := by
  induction places with
  | nil => simp [insertAscending]
  | cons first rest inductionHypothesis =>
      rw [insertAscending]
      split_ifs with before same
      · simp
      · simp [same]
      · simp [inductionHypothesis, or_left_comm]

/-- Inserting a place keeps places in ascending order. -/
theorem pairwise_insertAscending
    (place : Nat)
    {places : List Nat}
    (ascending : places.Pairwise (· < ·)) :
    (insertAscending place places).Pairwise (· < ·) := by
  induction places with
  | nil => simp [insertAscending]
  | cons first rest inductionHypothesis =>
      obtain ⟨least, restAscending⟩ := List.pairwise_cons.1 ascending
      rw [insertAscending]
      split_ifs with before same
      · refine List.pairwise_cons.2 ⟨?_, ascending⟩
        intro other member
        rcases List.mem_cons.1 member with rfl | later
        · exact before
        · exact Nat.lt_trans before (least other later)
      · exact ascending
      · refine List.pairwise_cons.2 ⟨?_, inductionHypothesis restAscending⟩
        intro other member
        rcases (mem_insertAscending place other rest).1 member with rfl | later
        · omega
        · exact least other later

@[simp] theorem getD_pending_release
    (state : SortState)
    (released place : Nat) :
    (state.release released).pending.getD place 0 =
      state.pending.getD place 0 - if released = place then 1 else 0 := by
  rw [release, List.getD_eq_getElem?_getD, List.getElem?_modify, List.getD_eq_getElem?_getD]
  cases state.pending[place]? with
  | none => simp
  | some count => split_ifs <;> simp

@[simp] theorem placed_release (state : SortState) (released : Nat) :
    (state.release released).placed = state.placed := rfl

/-- Releasing a place makes it ready when nothing is pending for it any longer. -/
theorem mem_ready_release
    (state : SortState)
    (released place : Nat) :
    place ∈ (state.release released).ready ↔
      place ∈ state.ready ∨
        place = released ∧ (state.release released).pending.getD place 0 = 0 := by
  rw [release]
  simp only
  split_ifs with clear
  · rw [mem_insertAscending, or_comm]
    constructor
    · rintro (member | rfl)
      · exact Or.inl member
      · exact Or.inr ⟨rfl, clear⟩
    · exact Or.imp_right And.left
  · constructor
    · exact Or.inl
    · rintro (member | ⟨rfl, isClear⟩)
      · exact member
      · exact absurd isClear clear

/-- Releasing a place keeps the ready places in ascending order. -/
theorem pairwise_ready_release
    {state : SortState}
    (ascending : state.ready.Pairwise (· < ·))
    (released : Nat) :
    (state.release released).ready.Pairwise (· < ·) := by
  rw [release]
  simp only
  split_ifs
  · exact pairwise_insertAscending released ascending
  · exact ascending

section Releases

variable (targets : List Nat) (state : SortState)

/-- Releasing places lowers each pending count by the number of releases. -/
theorem getD_pending_releases (place : Nat) :
    (targets.foldl release state).pending.getD place 0 =
      state.pending.getD place 0 - targets.count place := by
  induction targets generalizing state with
  | nil => simp
  | cons released rest inductionHypothesis =>
      rw [List.foldl_cons, inductionHypothesis, getD_pending_release, List.count_cons]
      simp only [beq_iff_eq]
      omega

theorem placed_releases :
    (targets.foldl release state).placed = state.placed := by
  induction targets generalizing state with
  | nil => rfl
  | cons released rest inductionHypothesis =>
      rw [List.foldl_cons, inductionHypothesis, placed_release]

/-- Releasing places makes those ready for which nothing is pending in the end. -/
theorem mem_ready_releases (place : Nat) :
    place ∈ (targets.foldl release state).ready ↔
      place ∈ state.ready ∨
        place ∈ targets ∧ (targets.foldl release state).pending.getD place 0 = 0 := by
  induction targets generalizing state with
  | nil => simp
  | cons released rest inductionHypothesis =>
      rw [List.foldl_cons, inductionHypothesis, mem_ready_release, List.mem_cons,
        getD_pending_releases]
      -- A count that is zero early stays zero, and one that ends at zero later is
      -- brought there by a later release.
      have later : place ∉ rest → rest.count place = 0 := List.count_eq_zero.2
      constructor
      · rintro ((member | ⟨same, clear⟩) | ⟨member, clear⟩)
        · exact Or.inl member
        · exact Or.inr ⟨Or.inl same, by omega⟩
        · exact Or.inr ⟨Or.inr member, clear⟩
      · rintro (member | ⟨same | member, clear⟩)
        · exact Or.inl (Or.inl member)
        · by_cases again : place ∈ rest
          · exact Or.inr ⟨again, clear⟩
          · exact Or.inl (Or.inr ⟨same, by have := later again; omega⟩)
        · exact Or.inr ⟨member, clear⟩

theorem pairwise_ready_releases
    (ascending : state.ready.Pairwise (· < ·)) :
    (targets.foldl release state).ready.Pairwise (· < ·) := by
  induction targets generalizing state with
  | nil => exact ascending
  | cons released rest inductionHypothesis =>
      rw [List.foldl_cons]
      exact inductionHypothesis _ (pairwise_ready_release ascending released)

end Releases

/-! ## The invariant -/

variable {size : Nat} {edges : List (Nat × Nat)} {state : SortState}

/-- The number of edges into a place from places that are not placed. -/
def openEdges (edges : List (Nat × Nat)) (placed : List Nat) (place : Nat) : Nat :=
  edges.countP fun edge => edge.2 == place && edge.1 ∉ placed

/-- The places that the edges out of a place lead to. -/
def successors (edges : List (Nat × Nat)) (place : Nat) : List Nat :=
  (edges.filter (·.1 == place)).map (·.2)

/-- No edge into a place is open exactly when all of them come from placed places. -/
theorem openEdges_eq_zero_iff
    (edges : List (Nat × Nat))
    (placed : List Nat)
    (place : Nat) :
    openEdges edges placed place = 0 ↔ ∀ edge ∈ edges, edge.2 = place → edge.1 ∈ placed := by
  simp [openEdges, List.countP_eq_zero]

theorem openEdges_edge_cons
    (edge : Nat × Nat)
    (rest : List (Nat × Nat))
    (placed : List Nat)
    (place : Nat) :
    openEdges (edge :: rest) placed place =
      openEdges rest placed place + if edge.2 = place ∧ edge.1 ∉ placed then 1 else 0 := by
  simp [openEdges, List.countP_cons]

theorem count_successors_edge_cons
    (edge : Nat × Nat)
    (rest : List (Nat × Nat))
    (next place : Nat) :
    (successors (edge :: rest) next).count place =
      (successors rest next).count place + if edge.1 = next ∧ edge.2 = place then 1 else 0 := by
  by_cases leaves : edge.1 = next
  · simp [successors, leaves, List.count_cons]
  · simp [successors, leaves]

/-- Placing a place closes the edges out of it. -/
theorem openEdges_placed_cons
    (edges : List (Nat × Nat))
    {placed : List Nat}
    {next : Nat}
    (new : next ∉ placed)
    (place : Nat) :
    openEdges edges placed place =
      openEdges edges (next :: placed) place + (successors edges next).count place := by
  induction edges with
  | nil => rfl
  | cons edge rest inductionHypothesis =>
      rw [openEdges_edge_cons, openEdges_edge_cons, count_successors_edge_cons,
        inductionHypothesis]
      by_cases leaves : edge.1 = next
      · simp only [leaves, new, List.mem_cons, true_or, not_true_eq_false, not_false_eq_true,
          and_true, and_false, true_and, if_false]
        omega
      · simp only [leaves, List.mem_cons, false_or, false_and, if_false]
        omega

/-- What holds at every moment of a sort. -/
structure Invariant (size : Nat) (edges : List (Nat × Nat)) (state : SortState) : Prop where
  /-- No place is placed twice. -/
  placedOnce : state.placed.Nodup
  /-- Only places of the list are placed. -/
  placedInside : ∀ place ∈ state.placed, place < size
  /-- The pending edges into a place are those from places that are not placed. -/
  pending : ∀ place, state.pending.getD place 0 = openEdges edges state.placed place
  /-- The ready places are in ascending order. -/
  ascending : state.ready.Pairwise (· < ·)
  /-- The ready places are those that nothing is pending for. -/
  ready : ∀ place, place ∈ state.ready ↔
    place < size ∧ place ∉ state.placed ∧ openEdges edges state.placed place = 0
  /-- A placed place stands after the places that its edges come from. -/
  respected : ∀ edge ∈ edges, edge.2 ∈ state.placed →
    [edge.2, edge.1].Sublist state.placed

namespace Invariant

/-- Before anything is placed the invariant holds. -/
theorem start
    (inside : ∀ edge ∈ edges, edge.1 < size ∧ edge.2 < size) :
    Invariant size edges (start size edges) := by
  have pending : ∀ place,
      (SortState.start size edges).pending.getD place 0 = openEdges edges [] place := by
    intro place
    have counted : openEdges edges [] place = edges.countP (·.2 == place) := by
      simp [openEdges]
    rw [counted, SortState.start]
    by_cases isInside : place < size
    · simp [isInside]
    · have outside : edges.countP (·.2 == place) = 0 := by
        rw [List.countP_eq_zero]
        intro edge member enters
        obtain rfl : edge.2 = place := by simpa using enters
        exact isInside (inside edge member).2
      simp [isInside, outside]
  constructor
  case placedOnce => exact List.nodup_nil
  case placedInside => exact List.forall_mem_nil _
  case pending => exact pending
  case ascending => exact List.pairwise_lt_range.filter _
  case ready =>
    intro place
    have filtered : place ∈ (SortState.start size edges).ready ↔
        place < size ∧ (SortState.start size edges).pending.getD place 0 = 0 := by
      rw [SortState.start, List.mem_filter, List.mem_range, beq_iff_eq]
    rw [filtered, pending]
    simp [SortState.start]
  case respected =>
    intro edge _ isPlaced
    exact absurd isPlaced List.not_mem_nil

/-- Placing the first ready place keeps the invariant. -/
theorem advance
    (inside : ∀ edge ∈ edges, edge.1 < size ∧ edge.2 < size)
    (invariant : Invariant size edges state)
    {next : Nat}
    {rest : List Nat}
    (isFirst : state.ready = next :: rest) :
    Invariant size edges (state.advance edges next rest) := by
  obtain ⟨nextInside, new, closed⟩ := (invariant.ready next).1 (by simp [isFirst])
  have noOpenEdge := (openEdges_eq_zero_iff edges state.placed next).1 closed
  have placed : (state.advance edges next rest).placed = next :: state.placed :=
    placed_releases _ _
  have pending : ∀ place, (state.advance edges next rest).pending.getD place 0 =
      openEdges edges (next :: state.placed) place := by
    intro place
    have before := openEdges_placed_cons edges new place
    have releases := getD_pending_releases (successors edges next)
      { state with ready := rest, placed := next :: state.placed } place
    rw [invariant.pending] at releases
    exact releases.trans (by omega)
  obtain ⟨least, restAscending⟩ := List.pairwise_cons.1 (isFirst ▸ invariant.ascending)
  constructor
  case placedOnce =>
    rw [placed]
    exact List.nodup_cons.2 ⟨new, invariant.placedOnce⟩
  case placedInside =>
    rw [placed, List.forall_mem_cons]
    exact ⟨nextInside, invariant.placedInside⟩
  case pending =>
    rw [placed]
    exact pending
  case ascending => exact pairwise_ready_releases _ _ restAscending
  case ready =>
    intro place
    have released : place ∈ (state.advance edges next rest).ready ↔
        place ∈ rest ∨ place ∈ successors edges next ∧
          openEdges edges (next :: state.placed) place = 0 := by
      rw [← pending place]
      exact mem_ready_releases _ _ place
    have wasReady := invariant.ready place
    rw [isFirst, List.mem_cons] at wasReady
    have before := openEdges_placed_cons edges new place
    rw [released, placed, List.mem_cons]
    -- The place is ready already, or the last open edges into it are closed now.
    constructor
    · rintro (member | ⟨member, clear⟩)
      · obtain ⟨isInside, isNew, isClosed⟩ := wasReady.1 (Or.inr member)
        have later : next < place := least place member
        exact ⟨isInside, not_or.2 ⟨by omega, isNew⟩, by omega⟩
      · obtain ⟨edge, filtered, enters⟩ := List.mem_map.1 member
        have edgeMember := List.mem_of_mem_filter filtered
        have leaves := List.of_mem_filter filtered
        obtain rfl : edge.1 = next := by simpa using leaves
        refine ⟨enters ▸ (inside edge edgeMember).2, not_or.2 ⟨?_, ?_⟩, clear⟩
        · rintro rfl
          exact new (noOpenEdge edge edgeMember enters)
        · intro isPlaced
          have sublist := invariant.respected edge edgeMember (enters ▸ isPlaced)
          exact new (sublist.subset (by simp))
    · rintro ⟨isInside, isNew, clear⟩
      rw [not_or] at isNew
      by_cases closedNow : place ∈ successors edges next
      · exact Or.inr ⟨closedNow, clear⟩
      · have unchanged : (successors edges next).count place = 0 := List.count_eq_zero.2 closedNow
        have ready := wasReady.2 ⟨isInside, isNew.2, by omega⟩
        exact Or.inl (ready.resolve_left isNew.1)
  case respected =>
    intro edge member isPlaced
    rw [placed] at isPlaced ⊢
    rcases List.mem_cons.1 isPlaced with same | earlier
    · rw [same]
      exact (List.singleton_sublist.2 (noOpenEdge edge member same)).cons_cons next
    · exact (invariant.respected edge member earlier).cons next

/-- A run keeps the invariant. -/
theorem run
    (inside : ∀ edge ∈ edges, edge.1 < size ∧ edge.2 < size)
    (invariant : Invariant size edges state)
    (fuel : Nat) :
    Invariant size edges (run edges fuel state) := by
  induction fuel generalizing state with
  | zero => exact invariant
  | succ fuel inductionHypothesis =>
      rw [SortState.run]
      split
      next => exact invariant
      next next rest isFirst => exact inductionHypothesis (invariant.advance inside isFirst)

end Invariant

end CloudPlan.Architecture.SortState
