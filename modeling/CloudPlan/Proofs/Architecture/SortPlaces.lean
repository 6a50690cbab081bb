import CloudPlan.Proofs.Architecture.SortState
import CloudPlan.Proofs.Relation.Acyclic
import CloudPlan.Proofs.Sequence
import Mathlib.Data.List.Lex

/-!
# Sorting places

A sort ends with an order that respects all edges exactly when these have no cycle.
Always placing the first ready place makes this order the least one there is.
-/

namespace CloudPlan.Architecture

variable {size : Nat} {edges : List (Nat × Nat)}

/-- All places in an order in which every edge leads from an earlier to a later one. -/
structure IsOrder (size : Nat) (edges : List (Nat × Nat)) (order : List Nat) : Prop where
  /-- Every place stands in the order once. -/
  perm : order.Perm (List.range size)
  /-- The start of an edge stands before its end. -/
  respected : ∀ edge ∈ edges, [edge.1, edge.2].Sublist order

namespace IsOrder

theorem nodup
    {order : List Nat}
    (isOrder : IsOrder size edges order) :
    order.Nodup :=
  isOrder.perm.nodup_iff.2 List.nodup_range

/-- Where an order exists the edges have no cycle. -/
theorem acyclic
    {order : List Nat}
    (isOrder : IsOrder size edges order) :
    Acyclic fun before after => (before, after) ∈ edges :=
  Acyclic.of_rank order.idxOf fun _ _ member =>
    idxOf_lt_idxOf_of_pair_sublist isOrder.nodup (isOrder.respected _ member)

end IsOrder

namespace SortState

variable {state : SortState}

namespace Invariant

/-- When as many places are placed as there are, every place is. -/
theorem placed_perm_range
    (invariant : Invariant size edges state)
    (full : size ≤ state.placed.length) :
    state.placed.Perm (List.range size) := by
  have inside : state.placed ⊆ List.range size := by
    intro place member
    exact List.mem_range.2 (invariant.placedInside place member)
  exact (List.subperm_of_subset invariant.placedOnce inside).perm_of_length_le (by simpa using full)

/-- A place that is neither placed nor ready has an edge from a place that is not placed. -/
theorem exists_open_edge
    (invariant : Invariant size edges state)
    {place : Nat}
    (inside : place < size)
    (new : place ∉ state.placed)
    (notReady : place ∉ state.ready) :
    ∃ edge ∈ edges, edge.2 = place ∧ edge.1 ∉ state.placed := by
  by_contra none
  apply notReady
  rw [invariant.ready, openEdges_eq_zero_iff]
  refine ⟨inside, new, ?_⟩
  intro edge member enters
  by_contra isOpen
  exact none ⟨edge, member, enters, isOpen⟩

/-- When nothing is ready any longer and the edges have no cycle, every place is placed. -/
theorem size_le_length_placed
    (inside : ∀ edge ∈ edges, edge.1 < size ∧ edge.2 < size)
    (invariant : Invariant size edges state)
    (stuck : state.ready = [])
    (acyclic : Acyclic fun before after => (before, after) ∈ edges) :
    size ≤ state.placed.length := by
  have allPlaced : ∀ place ∈ List.range size, place ∈ state.placed := by
    by_contra missing
    have nonempty : (List.range size).filter (· ∉ state.placed) ≠ [] := by
      simpa using missing
    obtain ⟨source, sourceMember, isSource⟩ := acyclic.exists_source nonempty
    obtain ⟨sourceInside, sourceNew⟩ : source < size ∧ source ∉ state.placed := by
      simpa using sourceMember
    obtain ⟨edge, member, rfl, isOpen⟩ :=
      invariant.exists_open_edge sourceInside sourceNew (by simp [stuck])
    have earlier : edge.1 ∈ (List.range size).filter (· ∉ state.placed) := by
      simpa using ⟨(inside edge member).1, isOpen⟩
    exact isSource edge.1 earlier member
  simpa using (List.subperm_of_subset List.nodup_range allPlaced).length_le

end Invariant

/-! ## Runs -/

theorem placed_advance
    (edges : List (Nat × Nat))
    (next : Nat)
    (rest : List Nat)
    (state : SortState) :
    (state.advance edges next rest).placed = next :: state.placed :=
  placed_releases _ _

/-- A run places further places behind those that are placed. -/
theorem exists_placed_run
    (edges : List (Nat × Nat))
    (fuel : Nat)
    (state : SortState) :
    ∃ later, (run edges fuel state).placed.reverse = state.placed.reverse ++ later := by
  induction fuel generalizing state with
  | zero => exact ⟨[], by simp [run]⟩
  | succ fuel inductionHypothesis =>
      rw [run]
      split
      next => exact ⟨[], by simp⟩
      next next rest _ =>
        obtain ⟨later, extended⟩ := inductionHypothesis (state.advance edges next rest)
        refine ⟨next :: later, ?_⟩
        rw [extended, placed_advance, List.reverse_cons, List.append_assoc,
          List.singleton_append]

/-- A run that is long enough goes on until nothing is ready. -/
theorem ready_run_eq_nil
    (inside : ∀ edge ∈ edges, edge.1 < size ∧ edge.2 < size)
    (invariant : Invariant size edges state)
    (fuel : Nat)
    (enough : size ≤ fuel + state.placed.length) :
    (run edges fuel state).ready = [] := by
  induction fuel generalizing state with
  | zero =>
      have full := invariant.placed_perm_range (by omega)
      rw [run, List.eq_nil_iff_forall_not_mem]
      intro place member
      obtain ⟨isInside, isNew, _⟩ := (invariant.ready place).1 member
      exact isNew (full.mem_iff.2 (List.mem_range.2 isInside))
  | succ fuel inductionHypothesis =>
      rw [run]
      split
      next stuck => exact stuck
      next next rest isFirst =>
        apply inductionHypothesis (invariant.advance inside isFirst)
        rw [placed_advance, List.length_cons]
        omega

/-- In any order that starts with the placed places the next one is ready. -/
theorem Invariant.mem_ready_of_isOrder
    (invariant : Invariant size edges state)
    {first : Nat}
    {others : List Nat}
    (isOrder : IsOrder size edges (state.placed.reverse ++ first :: others)) :
    first ∈ state.ready := by
  rw [invariant.ready, openEdges_eq_zero_iff]
  have member : first ∈ state.placed.reverse ++ first :: others := by simp
  have apart := isOrder.nodup
  refine ⟨List.mem_range.1 (isOrder.perm.mem_iff.1 member), ?_, ?_⟩
  · intro isPlaced
    exact (List.disjoint_of_nodup_append apart) (List.mem_reverse.2 isPlaced) (by simp)
  · rintro edge edgeMember rfl
    exact List.mem_reverse.1
      (mem_of_pair_sublist_append apart (isOrder.respected edge edgeMember))

/-- Of the orders that start with the placed places a run takes the least. -/
theorem run_least
    (inside : ∀ edge ∈ edges, edge.1 < size ∧ edge.2 < size)
    (invariant : Invariant size edges state)
    (fuel : Nat)
    {rest : List Nat}
    (isOrder : IsOrder size edges (state.placed.reverse ++ rest)) :
    ∃ later, (run edges fuel state).placed.reverse = state.placed.reverse ++ later ∧
      later ≤ rest := by
  induction fuel generalizing state rest with
  | zero => exact ⟨[], by simp [run], not_lt.1 (List.not_lt_nil rest)⟩
  | succ fuel inductionHypothesis =>
      rw [run]
      split
      next => exact ⟨[], by simp, not_lt.1 (List.not_lt_nil rest)⟩
      next next tail isFirst =>
        obtain ⟨nextInside, new, _⟩ := (invariant.ready next).1 (by simp [isFirst])
        have member : next ∈ state.placed.reverse ++ rest :=
          isOrder.perm.mem_iff.2 (List.mem_range.2 nextInside)
        cases rest with
        | nil => simp [new] at member
        | cons first others =>
            have ready := invariant.mem_ready_of_isOrder isOrder
            rw [isFirst, List.mem_cons] at ready
            -- Where the other order goes on differently, it goes on with a larger place.
            rcases ready with rfl | later
            · have continued : (state.advance edges first tail).placed.reverse ++ others =
                  state.placed.reverse ++ first :: others := by
                rw [placed_advance]
                simp
              obtain ⟨later, extended, least⟩ :=
                inductionHypothesis (invariant.advance inside isFirst) (continued ▸ isOrder)
              refine ⟨first :: later, ?_, ?_⟩
              · rw [extended, placed_advance]
                simp
              · exact List.cons_le_cons first least
            · have smaller : next < first :=
                (List.pairwise_cons.1 (isFirst ▸ invariant.ascending)).1 first later
              obtain ⟨further, extended⟩ :=
                exists_placed_run edges fuel (state.advance edges next tail)
              refine ⟨next :: further, ?_, ?_⟩
              · rw [extended, placed_advance]
                simp
              · exact le_of_lt (List.Lex.rel smaller)

end SortState

/-! ## Orders -/

open SortState (Invariant)

/-- The state in which a sort ends. -/
def finalState (size : Nat) (edges : List (Nat × Nat)) : SortState :=
  SortState.run edges size (SortState.start size edges)

theorem invariant_finalState
    (inside : ∀ edge ∈ edges, edge.1 < size ∧ edge.2 < size) :
    Invariant size edges (finalState size edges) :=
  (Invariant.start inside).run inside size

theorem ready_finalState
    (inside : ∀ edge ∈ edges, edge.1 < size ∧ edge.2 < size) :
    (finalState size edges).ready = [] :=
  SortState.ready_run_eq_nil inside (Invariant.start inside) size (Nat.le_add_right _ _)

/-- A sort succeeds exactly when every place is placed in the end. -/
theorem sortPlaces_eq_ok_iff (order : List Nat) :
    sortPlaces size edges = .ok order ↔
      size ≤ (finalState size edges).placed.length ∧
        (finalState size edges).placed.reverse = order := by
  rw [sortPlaces]
  change (if (finalState size edges).placed.length < size then _ else _) = _ ↔ _
  split_ifs with short
  · simp [Nat.not_le.2 short]
  · constructor
    · intro equal
      exact ⟨Nat.not_lt.1 short, Except.ok.inj equal⟩
    · rintro ⟨_, rfl⟩
      rfl

/-- The order of a sort has every place once and respects the edges. -/
theorem isOrder_of_sortPlaces
    (inside : ∀ edge ∈ edges, edge.1 < size ∧ edge.2 < size)
    {order : List Nat}
    (sorted : sortPlaces size edges = .ok order) :
    IsOrder size edges order := by
  obtain ⟨full, rfl⟩ := (sortPlaces_eq_ok_iff order).1 sorted
  have invariant := invariant_finalState inside
  have everyPlace := invariant.placed_perm_range full
  constructor
  · exact (List.reverse_perm _).trans everyPlace
  · intro edge member
    have isPlaced : edge.2 ∈ (finalState size edges).placed :=
      everyPlace.mem_iff.2 (List.mem_range.2 (inside edge member).2)
    exact (invariant.respected edge member isPlaced).reverse

/-- Places are sorted exactly when their edges have no cycle. -/
theorem sortPlaces_succeeds_iff
    (inside : ∀ edge ∈ edges, edge.1 < size ∧ edge.2 < size) :
    (∃ order, sortPlaces size edges = .ok order) ↔
      Acyclic fun before after => (before, after) ∈ edges := by
  constructor
  · rintro ⟨order, sorted⟩
    exact (isOrder_of_sortPlaces inside sorted).acyclic
  · intro acyclic
    have full := (invariant_finalState inside).size_le_length_placed inside
      (ready_finalState inside) acyclic
    exact ⟨_, (sortPlaces_eq_ok_iff _).2 ⟨full, rfl⟩⟩

/-- No order that respects the edges is smaller than the one of a sort. -/
theorem le_of_sortPlaces
    (inside : ∀ edge ∈ edges, edge.1 < size ∧ edge.2 < size)
    {order other : List Nat}
    (sorted : sortPlaces size edges = .ok order)
    (isOrder : IsOrder size edges other) :
    order ≤ other := by
  obtain ⟨_, rfl⟩ := (sortPlaces_eq_ok_iff order).1 sorted
  obtain ⟨later, extended, least⟩ :=
    SortState.run_least inside (Invariant.start inside) size isOrder
  exact extended.trans_le least

end CloudPlan.Architecture
