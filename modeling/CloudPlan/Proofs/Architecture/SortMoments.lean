import CloudPlan.Proofs.Architecture.Cycles

/-!
# The moments of a sort

A sort takes small steps: it places the first ready place, and then lowers the count of each
place that an edge leads to from there.  Between any two steps the count of a place is the
number of edges into it from places that are not placed, and of those still to be followed.
So no count is lowered below zero, no place becomes ready twice, and where a sort is stuck
the way back along what is not placed closes.
-/

namespace CloudPlan

open Relation (ReflTransGen)

namespace Architecture

variable {size : Nat} {edges : List (Nat × Nat)}

/-- A moment of a sort. -/
structure Moment where
  /-- How far the sort has come. -/
  state : SortState
  /-- The places whose counts are to be lowered before the next place is placed. -/
  releasing : List Nat
  /-- The places that have become ready so far, the last one first. -/
  entered : List Nat

namespace Moment

/-- Before anything is placed. -/
def start (size : Nat) (edges : List (Nat × Nat)) : Moment where
  state := SortState.start size edges
  releasing := []
  entered := (SortState.start size edges).ready

/-- A step of a sort: a place is placed, or a count is lowered. -/
inductive Step (edges : List (Nat × Nat)) : Moment → Moment → Prop
  | place {state : SortState} {entered : List Nat} {next : Nat} {rest : List Nat} :
      state.ready = next :: rest →
      Step edges ⟨state, [], entered⟩
        ⟨{ state with ready := rest, placed := next :: state.placed },
          SortState.successors edges next, entered⟩
  | release {state : SortState} {entered : List Nat} {place : Nat} {later : List Nat} :
      Step edges ⟨state, place :: later, entered⟩
        ⟨state.release place, later,
          if (state.release place).pending.getD place 0 = 0 then place :: entered else entered⟩

/-- A sort comes to a moment. -/
def IsReached (size : Nat) (edges : List (Nat × Nat)) (moment : Moment) : Prop :=
  ReflTransGen (Step edges) (start size edges) moment

/-! ## Counts -/

/-- What holds at every moment of a sort. -/
structure IsCounted (size : Nat) (edges : List (Nat × Nat)) (moment : Moment) : Prop where
  /-- There is a count for every place. -/
  length : moment.state.pending.length = size
  /-- Counts are lowered of places of the list only. -/
  inside : ∀ place ∈ moment.releasing, place < size
  /-- A count is the number of edges from places that are not placed, and of releases to come. -/
  counts : ∀ place, moment.state.pending.getD place 0 =
    SortState.openEdges edges moment.state.placed place + moment.releasing.count place
  /-- The ready places are those that nothing is counted for and that are not placed. -/
  ready : ∀ place, place ∈ moment.state.ready ↔
    place < size ∧ place ∉ moment.state.placed ∧ moment.state.pending.getD place 0 = 0
  /-- Nothing is counted for a place that is placed. -/
  settled : ∀ place ∈ moment.state.placed, moment.state.pending.getD place 0 = 0
  /-- What has become ready is ready until it is placed. -/
  kept : moment.entered.Perm (moment.state.ready ++ moment.state.placed)
  /-- Nothing becomes ready twice. -/
  once : moment.entered.Nodup

theorem successors_inside
    (inside : ∀ edge ∈ edges, edge.1 < size ∧ edge.2 < size)
    {place next : Nat}
    (member : place ∈ SortState.successors edges next) :
    place < size := by
  obtain ⟨edge, filtered, rfl⟩ := List.mem_map.1 member
  exact (inside edge (List.mem_of_mem_filter filtered)).2

/-- A place that is new among places makes one more of them. -/
theorem insertAscending_perm
    {place : Nat}
    {places : List Nat}
    (new : place ∉ places) :
    (SortState.insertAscending place places).Perm (place :: places) := by
  induction places with
  | nil => exact List.Perm.refl _
  | cons other rest inductionHypothesis =>
      obtain ⟨different, newInRest⟩ := List.ne_and_not_mem_of_not_mem_cons new
      rw [SortState.insertAscending]
      split_ifs
      · exact List.Perm.refl _
      · exact ((inductionHypothesis newInRest).cons other).trans (List.Perm.swap place other rest)

namespace IsCounted

variable {state : SortState} {entered : List Nat}

/-- A count that is to be lowered is not zero. -/
theorem pos_of_releasing
    {moment : Moment}
    (counted : IsCounted size edges moment)
    {place : Nat}
    (member : place ∈ moment.releasing) :
    0 < moment.state.pending.getD place 0 := by
  have counts := counted.counts place
  have releases := List.count_pos_iff.2 member
  omega

theorem getElem?_pending
    {moment : Moment}
    (counted : IsCounted size edges moment)
    {place : Nat}
    (isInside : place < size) :
    moment.state.pending[place]? =
      some (SortState.openEdges edges moment.state.placed place +
        moment.releasing.count place) := by
  have counts := counted.counts place
  rw [← counted.length] at isInside
  rw [List.getD_eq_getElem?_getD, List.getElem?_eq_getElem isInside, Option.getD_some] at counts
  rw [List.getElem?_eq_getElem isInside, counts]

theorem placedOnce
    {moment : Moment}
    (counted : IsCounted size edges moment) :
    moment.state.placed.Nodup :=
  (counted.kept.nodup_iff.1 counted.once).of_append_right

/-- The counts hold before anything is placed. -/
theorem start
    (inside : ∀ edge ∈ edges, edge.1 < size ∧ edge.2 < size) :
    IsCounted size edges (start size edges) := by
  have invariant := SortState.Invariant.start inside
  constructor
  case length => simp [Moment.start, SortState.start]
  case inside => exact List.forall_mem_nil _
  case counts => exact invariant.pending
  case ready =>
    intro place
    rw [Moment.start, invariant.ready, invariant.pending]
  case settled => exact List.forall_mem_nil _
  case kept => exact List.Perm.of_eq (List.append_nil _).symm
  case once => exact invariant.ascending.imp Nat.ne_of_lt

/-- Placing the first ready place keeps the counts. -/
theorem place
    (inside : ∀ edge ∈ edges, edge.1 < size ∧ edge.2 < size)
    (counted : IsCounted size edges ⟨state, [], entered⟩)
    {next : Nat}
    {rest : List Nat}
    (isFirst : state.ready = next :: rest) :
    IsCounted size edges
      ⟨{ state with ready := rest, placed := next :: state.placed },
        SortState.successors edges next, entered⟩ := by
  obtain ⟨nextInside, new, clear⟩ := (counted.ready next).1 (by simp [isFirst])
  have apart : (next :: rest ++ state.placed).Nodup :=
    isFirst ▸ counted.kept.nodup_iff.1 counted.once
  constructor
  case length => exact counted.length
  case inside => exact fun place member => successors_inside inside member
  case counts =>
    intro place
    exact (counted.counts place).trans (SortState.openEdges_placed_cons edges new place)
  case ready =>
    intro place
    have wasReady := counted.ready place
    rw [isFirst, List.mem_cons] at wasReady
    rw [List.mem_cons, not_or]
    constructor
    · intro member
      have different : place ≠ next := by
        rintro rfl
        exact (List.nodup_cons.1 apart).1 (List.mem_append_left _ member)
      obtain ⟨isInside, isNew, isClear⟩ := wasReady.1 (Or.inr member)
      exact ⟨isInside, ⟨different, isNew⟩, isClear⟩
    · rintro ⟨isInside, ⟨different, isNew⟩, isClear⟩
      exact (wasReady.2 ⟨isInside, isNew, isClear⟩).resolve_left different
  case settled => exact List.forall_mem_cons.2 ⟨clear, counted.settled⟩
  case kept =>
    have kept := counted.kept
    rw [isFirst] at kept
    exact kept.trans List.perm_middle.symm
  case once => exact counted.once

/-- Lowering a count keeps the counts. -/
theorem release
    {place : Nat}
    {later : List Nat}
    (counted : IsCounted size edges ⟨state, place :: later, entered⟩) :
    IsCounted size edges
      ⟨state.release place, later,
        if (state.release place).pending.getD place 0 = 0 then place :: entered else entered⟩ := by
  have positive : 0 < state.pending.getD place 0 := counted.pos_of_releasing List.mem_cons_self
  -- What something is counted for has not become ready yet.
  have notReady : place ∉ state.ready := fun member =>
    Nat.ne_of_gt positive ((counted.ready place).1 member).2.2
  have notPlaced : place ∉ state.placed := fun member =>
    Nat.ne_of_gt positive (counted.settled place member)
  have notEntered : place ∉ entered := by
    rw [counted.kept.mem_iff, List.mem_append]
    exact not_or.2 ⟨notReady, notPlaced⟩
  obtain ⟨placeInside, laterInside⟩ := List.forall_mem_cons.1 counted.inside
  constructor
  case length => exact (List.length_modify _ _ _).trans counted.length
  case inside => exact laterInside
  case counts =>
    intro other
    have counts := counted.counts other
    simp only [List.count_cons, beq_iff_eq] at counts
    simp only [SortState.getD_pending_release, SortState.placed_release]
    omega
  case ready =>
    intro other
    rw [SortState.mem_ready_release, counted.ready, SortState.placed_release,
      SortState.getD_pending_release]
    by_cases same : place = other
    · subst same
      simp only [true_and]
      have wasCounted : state.pending.getD place 0 ≠ 0 := Nat.ne_of_gt positive
      tauto
    · have different : other ≠ place := Ne.symm same
      simp [same, different]
  case settled =>
    intro other isPlaced
    rw [SortState.getD_pending_release, counted.settled other isPlaced, Nat.zero_sub]
  case kept =>
    rw [SortState.placed_release]
    by_cases clear : (state.release place).pending.getD place 0 = 0
    · have isReady : (state.release place).ready =
          SortState.insertAscending place state.ready := if_pos clear
      rw [if_pos clear, isReady]
      exact (counted.kept.cons place).trans
        ((insertAscending_perm notReady).symm.append_right state.placed)
    · have isReady : (state.release place).ready = state.ready := if_neg clear
      rw [if_neg clear, isReady]
      exact counted.kept
  case once =>
    split
    next => exact List.nodup_cons.2 ⟨notEntered, counted.once⟩
    next => exact counted.once

/-- A step keeps the counts. -/
theorem step
    (inside : ∀ edge ∈ edges, edge.1 < size ∧ edge.2 < size)
    {moment following : Moment}
    (counted : IsCounted size edges moment)
    (step : Step edges moment following) :
    IsCounted size edges following := by
  cases step with
  | place isFirst => exact counted.place inside isFirst
  | release => exact counted.release

end IsCounted

/-- The counts hold at every moment of a sort. -/
theorem IsReached.isCounted
    (inside : ∀ edge ∈ edges, edge.1 < size ∧ edge.2 < size)
    {moment : Moment}
    (reached : IsReached size edges moment) :
    IsCounted size edges moment := by
  induction reached with
  | refl => exact IsCounted.start inside
  | tail _ step inductionHypothesis => exact inductionHypothesis.step inside step

/-! ## Moments of a run -/

/-- One more place is placed at the end of a run. -/
theorem run_succ
    (edges : List (Nat × Nat))
    (fuel : Nat)
    (state : SortState) :
    SortState.run edges (fuel + 1) state =
      match (SortState.run edges fuel state).ready with
      | [] => SortState.run edges fuel state
      | next :: rest => (SortState.run edges fuel state).advance edges next rest := by
  induction fuel generalizing state with
  | zero => rfl
  | succ fuel inductionHypothesis =>
      rw [SortState.run]
      cases isReady : state.ready with
      | nil =>
          have stays : SortState.run edges (fuel + 1) state = state := by
            rw [SortState.run, isReady]
          rw [stays, isReady]
      | cons next rest =>
          have goesOn : SortState.run edges (fuel + 1) state =
              SortState.run edges fuel (state.advance edges next rest) := by
            rw [SortState.run, isReady]
          rw [goesOn]
          exact inductionHypothesis _

/-- All counts that are to be lowered are lowered one after the other. -/
theorem exists_steps_releases
    (edges : List (Nat × Nat))
    (releasing : List Nat)
    (state : SortState)
    (entered : List Nat) :
    ∃ later, ReflTransGen (Step edges) ⟨state, releasing, entered⟩
      ⟨releasing.foldl SortState.release state, [], later⟩ := by
  induction releasing generalizing state entered with
  | nil => exact ⟨entered, .refl⟩
  | cons place rest inductionHypothesis =>
      obtain ⟨later, steps⟩ := inductionHypothesis (state.release place) _
      exact ⟨later, .head .release steps⟩

/-- A sort comes to every state of a run. -/
theorem exists_isReached_run
    (size : Nat)
    (edges : List (Nat × Nat))
    (fuel : Nat) :
    ∃ entered, IsReached size edges
      ⟨SortState.run edges fuel (SortState.start size edges), [], entered⟩ := by
  induction fuel with
  | zero => exact ⟨_, .refl⟩
  | succ fuel inductionHypothesis =>
      obtain ⟨entered, reached⟩ := inductionHypothesis
      rw [run_succ]
      split
      next => exact ⟨entered, reached⟩
      next next rest isFirst =>
        obtain ⟨later, steps⟩ := exists_steps_releases edges (SortState.successors edges next)
          { SortState.run edges fuel (SortState.start size edges) with
            ready := rest
            placed := next :: (SortState.run edges fuel (SortState.start size edges)).placed }
          entered
        exact ⟨later, (reached.tail (.place isFirst)).trans steps⟩

/-- With the counts lowered that are to be lowered, a moment is a state of the run that has
placed as many places. -/
theorem IsReached.foldl_release
    {moment : Moment}
    (reached : IsReached size edges moment) :
    moment.releasing.foldl SortState.release moment.state =
      SortState.run edges moment.state.placed.length (SortState.start size edges) := by
  induction reached with
  | refl => rfl
  | tail _ step inductionHypothesis =>
      cases step with
      | @place state entered next rest isFirst =>
          have isRun : state =
              SortState.run edges state.placed.length (SortState.start size edges) :=
            inductionHypothesis
          rw [List.length_cons, run_succ, ← isRun, isFirst]
          rfl
      | release => exact inductionHypothesis

end Moment

/-! ## Sorting resources -/

variable {architecture : Architecture}

/-- Where all links lead somewhere, both ends of every edge have places. -/
theorem Closed.mapM_edgeIndexes?
    (closed : architecture.Closed) :
    architecture.linkEdges.mapM (edgeIndexes? architecture.ids) = some architecture.placeEdges := by
  have hasPlaces : ∀ edge ∈ architecture.linkEdges,
      ∃ places, edgeIndexes? architecture.ids edge = some places := by
    intro edge member
    obtain ⟨beforeMember, afterMember⟩ := closed.mem_ids ((mem_linkEdges_iff edge).1 member)
    obtain ⟨first, found⟩ := exists_lastIndex? beforeMember
    obtain ⟨second, otherFound⟩ := exists_lastIndex? afterMember
    exact ⟨(first, second), by simp [edgeIndexes?, found, otherFound]⟩
  exact mapM_eq_some_filterMap hasPlaces

/-- A sort counts, for every place, the edges into it from places that are not placed.  So no count
is lowered below zero, and no place becomes ready or is placed twice.  When nothing is ready any
longer, what is not placed waits for what is not placed, and a way back from there closes. -/
theorem order_keeps_counts
    (closed : architecture.Closed) :
    (architecture.provisioningEdges = .ok architecture.linkEdges ∧
      architecture.linkEdges.mapM (edgeIndexes? architecture.ids) =
        some architecture.placeEdges ∧
      architecture.order =
        match sortPlaces architecture.resources.length architecture.placeEdges with
        | .ok order => .ok order
        | .error cycle => .error (.cyclic (cycle.filterMap (architecture.ids[·]?)))) ∧
    let size := architecture.resources.length
    let edges := architecture.placeEdges
    let final := finalState size edges
    (∀ rounds, ∃ entered,
      Moment.IsReached size edges
        ⟨SortState.run edges rounds (SortState.start size edges), [], entered⟩) ∧
    (∀ moment, Moment.IsReached size edges moment →
      (moment.releasing = [] → ∃ rounds,
        moment.state = SortState.run edges rounds (SortState.start size edges)) ∧
      (∀ place < size, moment.state.pending[place]? =
        some (SortState.openEdges edges moment.state.placed place +
          moment.releasing.count place)) ∧
      (∀ place ∈ moment.releasing, place < size ∧ 0 < moment.state.pending.getD place 0) ∧
      moment.entered.Perm (moment.state.ready ++ moment.state.placed) ∧
      moment.entered.Nodup ∧
      moment.state.placed.Nodup) ∧
    final.ready = [] ∧
    (∀ place < size, place ∉ final.placed →
      ∃ previous < size, previous ∉ final.placed ∧ (previous, place) ∈ edges) ∧
    (final.placed.length < size →
      ∃ start, (List.range size).find? final.isBlocked = some start ∧
        SortState.Closes edges final [] start (final.cycle size edges)) := by
  have inside := @placeEdges_inside architecture
  have invariant := invariant_finalState inside
  have stuck := ready_finalState inside
  refine ⟨⟨provisioningEdges_of_closed closed, closed.mapM_edgeIndexes?, closed.order_eq⟩, ?_⟩
  refine ⟨Moment.exists_isReached_run _ _, ?_, stuck, ?_,
    SortState.closes_cycle inside invariant stuck⟩
  · intro moment reached
    have counted := reached.isCounted inside
    refine ⟨?_, fun place => counted.getElem?_pending, ?_, counted.kept, counted.once,
      counted.placedOnce⟩
    · intro nothingLeft
      have isRun := reached.foldl_release
      rw [nothingLeft] at isRun
      exact ⟨_, isRun⟩
    · exact fun place member => ⟨counted.inside place member, counted.pos_of_releasing member⟩
  · intro place isInside new
    obtain ⟨edge, member, rfl, previousNew⟩ :=
      invariant.exists_open_edge isInside new (stuck ▸ List.not_mem_nil)
    exact ⟨edge.1, (inside edge member).1, previousNew, member⟩

/-- Two servers with one id, the first of which depends on a third server, and one that depends on
itself. -/
def twins : Architecture where
  provider := .aws
  region := ""
  resources := [
    { Resource.ofType "twin" "Server" with dependsOn := [⟨"base", .uses, .explicit⟩] },
    Resource.ofType "twin" "Server",
    Resource.ofType "base" "Server",
    { Resource.ofType "loop" "Server" with dependsOn := [⟨"loop", .uses, .explicit⟩] }]

/-- The edge into the twins is counted for the second one.  When the base is placed that count is
one and is still to be lowered.  In the end the last server is left over, and the way back from it
leads to itself. -/
theorem order_keeps_counts_of_twins :
    twins.Closed ∧ twins.placeEdges = [(2, 1), (3, 3)] ∧
    Moment.IsReached 4 [(2, 1), (3, 3)] ⟨⟨[0, 1, 0, 1], [], [2, 0]⟩, [1], [0, 2]⟩ ∧
    (0 < [0, 1, 0, 1].getD 1 0 ∧ [0, 2].Nodup) ∧
    (finalState 4 [(2, 1), (3, 3)]).placed = [1, 2, 0] ∧
    (∃ previous < 4, previous ∉ [1, 2, 0] ∧ (previous, 3) ∈ [(2, 1), (3, 3)]) ∧
    ∃ start, SortState.Closes [(2, 1), (3, 3)] (finalState 4 [(2, 1), (3, 3)]) [] start [3, 3] := by
  have closed : twins.Closed := closed_iff_links.2 (by decide)
  have size : twins.resources.length = 4 := rfl
  have areEdges : twins.placeEdges = [(2, 1), (3, 3)] := by decide
  have placed : (finalState 4 [(2, 1), (3, 3)]).placed = [1, 2, 0] := by decide
  have around : (finalState 4 [(2, 1), (3, 3)]).cycle 4 [(2, 1), (3, 3)] = [3, 3] := by decide
  have reached : Moment.IsReached 4 [(2, 1), (3, 3)]
      ⟨⟨[0, 1, 0, 1], [], [2, 0]⟩, [1], [0, 2]⟩ :=
    (ReflTransGen.single (.place rfl)).tail (.place rfl)
  obtain ⟨_, _, moments, _, waits, closes⟩ := order_keeps_counts closed
  rw [size, areEdges] at moments waits closes
  rw [placed] at waits closes
  rw [around] at closes
  obtain ⟨_, _, lowers, _, once, _⟩ := moments _ reached
  obtain ⟨start, _, leadsAround⟩ := closes (by decide)
  exact ⟨closed, areEdges, reached, ⟨(lowers 1 (by simp)).2, once⟩, placed,
    waits 3 (by decide) (by decide), start, leadsAround⟩

end Architecture

end CloudPlan
