import CloudPlan.Proofs.Architecture.Order
import CloudPlan.Proofs.Relation.Round

/-!
# Reported cycles

When a sort is stuck, every place that waits for another waits for one that waits itself.
So the way back from a waiting place meets a place again before it runs out of places, and
what lies between the two is a round.  The resources of a reported cycle are therefore on a
cycle of what precedes what, and none of them merely depends on one.
-/

namespace CloudPlan

open Relation (TransGen)

namespace Architecture

variable {size : Nat} {edges : List (Nat × Nat)}

/-! ## Waiting places -/

namespace SortState

variable {state : SortState}

theorem mem_of_blocker?
    {place previous : Nat}
    (found : state.blocker? edges place = some previous) :
    (previous, place) ∈ edges ∧ state.isBlocked previous = true := by
  have member := List.min?_mem found
  obtain ⟨inEdges, blocked⟩ := List.mem_filter.1 member
  obtain ⟨⟨first, second⟩, isEdge, rfl⟩ := List.mem_map.1 inEdges
  obtain ⟨edgeMember, enters⟩ := List.mem_filter.1 isEdge
  obtain rfl : second = place := by simpa using enters
  exact ⟨edgeMember, blocked⟩

namespace Invariant

/-- A place is blocked exactly when an edge enters it from a place that is not placed. -/
theorem isBlocked_iff
    (invariant : Invariant size edges state)
    (place : Nat) :
    state.isBlocked place = true ↔ ∃ edge ∈ edges, edge.2 = place ∧ edge.1 ∉ state.placed := by
  have closed := openEdges_eq_zero_iff edges state.placed place
  rw [isBlocked, invariant.pending, decide_eq_true_eq, Nat.pos_iff_ne_zero, ne_eq, closed]
  push Not
  rfl

/-- When nothing is ready, all that is not placed is blocked. -/
theorem isBlocked_of_not_mem_placed
    (invariant : Invariant size edges state)
    (stuck : state.ready = [])
    {place : Nat}
    (inside : place < size)
    (new : place ∉ state.placed) :
    state.isBlocked place = true :=
  (invariant.isBlocked_iff place).2
    (invariant.exists_open_edge inside new (stuck ▸ List.not_mem_nil))

/-- When nothing is ready, a blocked place waits for a place that is blocked as well. -/
theorem exists_blocker?
    (inside : ∀ edge ∈ edges, edge.1 < size ∧ edge.2 < size)
    (invariant : Invariant size edges state)
    (stuck : state.ready = [])
    {place : Nat}
    (blocked : state.isBlocked place = true) :
    ∃ previous, state.blocker? edges place = some previous := by
  obtain ⟨edge, member, enters, new⟩ := (invariant.isBlocked_iff place).1 blocked
  have alsoBlocked : state.isBlocked edge.1 = true :=
    invariant.isBlocked_of_not_mem_placed stuck (inside edge member).1 new
  rw [blocker?, ← Option.isSome_iff_exists, List.isSome_min?_iff]
  refine List.ne_nil_of_mem (a := edge.1) (List.mem_filter.2 ⟨List.mem_map.2 ⟨edge, ?_, rfl⟩, ?_⟩)
  · exact List.mem_filter.2 ⟨member, by simpa using enters⟩
  · exact alsoBlocked

end Invariant

/-! ## Walking back -/

/-- The way back from a place along blocked places meets a place of it again, and the part from
that place on is a cycle.  The places passed before are given, the last one first. -/
inductive Closes (edges : List (Nat × Nat)) (state : SortState) : List Nat → Nat → List Nat → Prop
  | meets {path : List Nat} {place : Nat} :
      place ∈ path → Closes edges state path place (path.reverse.dropWhile (· != place) ++ [place])
  | goesOn {path : List Nat} {place previous : Nat} {cycle : List Nat} :
      place ∉ path → state.blocker? edges place = some previous →
      Closes edges state (place :: path) previous cycle → Closes edges state path place cycle

/-- Where blocked places wait for blocked ones, the way back from one of them closes. -/
theorem closes_walkBack
    (waits : ∀ place, state.isBlocked place = true →
      place < size ∧ ∃ previous, state.blocker? edges place = some previous)
    (fuel : Nat)
    {path : List Nat}
    {place : Nat}
    (apart : path.Nodup)
    (blocked : ∀ passed ∈ place :: path, state.isBlocked passed = true)
    (enough : size < fuel + path.length) :
    Closes edges state path place (walkBack edges state fuel path place) := by
  -- The path never holds a place twice, so it cannot outgrow the places there are.
  induction fuel generalizing path place with
  | zero =>
      have inside : path ⊆ List.range size := fun passed member =>
        List.mem_range.2 (waits passed (blocked passed (List.mem_cons_of_mem _ member))).1
      have short := (List.subperm_of_subset apart inside).length_le
      rw [List.length_range] at short
      omega
  | succ fuel inductionHypothesis =>
      rw [walkBack]
      split_ifs with again
      · exact .meets again
      · obtain ⟨previous, found⟩ := (waits place (blocked place List.mem_cons_self)).2
        rw [found]
        refine .goesOn again found (inductionHypothesis (List.nodup_cons.2 ⟨again, apart⟩) ?_ ?_)
        · exact List.forall_mem_cons.2 ⟨(mem_of_blocker? found).2, blocked⟩
        · rw [List.length_cons]
          omega

/-- A way back that closes ends with a round. -/
theorem Closes.isRound
    {path cycle : List Nat}
    {place : Nat}
    (closes : Closes edges state path place cycle)
    (apart : path.Nodup)
    (chain : (place :: path).IsChain fun earlier later => (earlier, later) ∈ edges) :
    IsRound (fun later earlier => (earlier, later) ∈ edges) cycle := by
  induction closes with
  | @meets path place again =>
      obtain ⟨front, back, parts, rest⟩ := exists_dropWhile_ne_eq (List.mem_reverse.2 again)
      rw [rest]
      refine ⟨place, back, rfl, ?_, ?_⟩
      · have reversed : (front ++ place :: back).Nodup := parts ▸ List.nodup_reverse.2 apart
        exact reversed.of_append_right
      · have reversed := List.isChain_reverse.2 chain
        rw [List.reverse_cons, parts, List.append_assoc] at reversed
        exact reversed.right_of_append
  | goesOn isNew found _ inductionHypothesis =>
      apply inductionHypothesis (List.nodup_cons.2 ⟨isNew, apart⟩)
      exact List.isChain_cons_cons.2 ⟨(mem_of_blocker? found).1, chain⟩

/-- When nothing is ready and not all is placed, the way back from the first blocked place
closes. -/
theorem closes_cycle
    (inside : ∀ edge ∈ edges, edge.1 < size ∧ edge.2 < size)
    (invariant : Invariant size edges state)
    (stuck : state.ready = [])
    (short : state.placed.length < size) :
    ∃ start, (List.range size).find? state.isBlocked = some start ∧
      Closes edges state [] start (state.cycle size edges) := by
  have waits : ∀ place, state.isBlocked place = true →
      place < size ∧ ∃ previous, state.blocker? edges place = some previous := by
    intro place blocked
    obtain ⟨edge, member, rfl, _⟩ := (invariant.isBlocked_iff place).1 blocked
    exact ⟨(inside edge member).2, invariant.exists_blocker? inside stuck blocked⟩
  obtain ⟨place, isInside, new⟩ : ∃ place ∈ List.range size, place ∉ state.placed := by
    by_contra! allPlaced
    have full := (List.subperm_of_subset List.nodup_range allPlaced).length_le
    rw [List.length_range] at full
    omega
  have isBlocked := invariant.isBlocked_of_not_mem_placed stuck (List.mem_range.1 isInside) new
  obtain ⟨start, found⟩ := Option.isSome_iff_exists.1
    (List.find?_isSome.2 ⟨place, isInside, isBlocked⟩)
  refine ⟨start, found, ?_⟩
  rw [cycle, found]
  refine closes_walkBack waits (size + 1) List.nodup_nil ?_ (Nat.lt_add_one size)
  rintro passed (_ | ⟨_, ⟨⟩⟩)
  exact List.find?_some found

/-- When nothing is ready and not all is placed, a round of places is reported. -/
theorem isRound_cycle
    (inside : ∀ edge ∈ edges, edge.1 < size ∧ edge.2 < size)
    (invariant : Invariant size edges state)
    (stuck : state.ready = [])
    (short : state.placed.length < size) :
    IsRound (fun later earlier => (earlier, later) ∈ edges) (state.cycle size edges) := by
  obtain ⟨start, _, closes⟩ := closes_cycle inside invariant stuck short
  exact closes.isRound List.nodup_nil (List.isChain_singleton start)

end SortState

/-- Places that cannot be sorted are reported with a round of them. -/
theorem isRound_of_sortPlaces
    (inside : ∀ edge ∈ edges, edge.1 < size ∧ edge.2 < size)
    {cycle : List Nat}
    (fails : sortPlaces size edges = .error cycle) :
    IsRound (fun later earlier => (earlier, later) ∈ edges) cycle := by
  rw [sortPlaces] at fails
  change (if (finalState size edges).placed.length < size then _ else _) = _ at fails
  split_ifs at fails with short
  obtain rfl := Except.error.inj fails
  exact SortState.isRound_cycle inside (invariant_finalState inside) (ready_finalState inside) short

/-! ## Resources -/

variable {architecture : Architecture} {cycle : List String}

/-- Every place of a round is the one that is found for the id it holds. -/
theorem exists_id_of_round
    {places : List Nat}
    (round : IsRound (fun later earlier => (earlier, later) ∈ architecture.placeEdges) places)
    {place : Nat}
    (member : place ∈ places) :
    ∃ id, architecture.ids[place]? = some id ∧
      lastIndex? id architecture.ids = some place := by
  obtain ⟨previous, isEdge, _⟩ := Relation.TransGen.head'_iff.1 (round.on_cycle member)
  obtain ⟨_, id, _, _, found⟩ := (mem_placeEdges_iff previous place).1 isEdge
  exact ⟨id, getElem?_of_lastIndex? found, found⟩

/-- The ids that the places of a round hold are a round of what comes before what. -/
theorem isRound_ids
    {places : List Nat}
    (round : IsRound (fun later earlier => (earlier, later) ∈ architecture.placeEdges) places) :
    IsRound (fun later earlier => architecture.Precedes earlier later)
      (places.filterMap (architecture.ids[·]?)) := by
  have holds : ∀ place ∈ places,
      architecture.ids[place]? = some (architecture.ids[place]?.getD "") := by
    intro place member
    obtain ⟨id, isId, _⟩ := exists_id_of_round round member
    rw [isId, Option.getD_some]
  rw [List.filterMap_congr holds, List.filterMap_eq_map']
  refine round.map _ ?_ ?_
  · intro first isFirst second isSecond same
    obtain ⟨id, isId, found⟩ := exists_id_of_round round isFirst
    obtain ⟨other, isOther, otherFound⟩ := exists_id_of_round round isSecond
    obtain rfl : id = other := by simpa [isId, isOther] using same
    exact Option.some.inj (found.symm.trans otherFound)
  · intro later earlier isEdge
    obtain ⟨before, after, precedes, found, otherFound⟩ :=
      (mem_placeEdges_iff earlier later).1 isEdge
    rw [getElem?_of_lastIndex? found, getElem?_of_lastIndex? otherFound]
    exact precedes

theorem closed_of_sort_cyclic
    (fails : architecture.sort = .error (.cyclic cycle)) :
    architecture.Closed := by
  by_contra dangling
  obtain ⟨_, _, _, reported⟩ := sort_of_not_closed dangling
  rw [fails] at reported
  cases Except.error.inj reported

/-- A sort that fails with a cycle reports a round of resources. -/
theorem isRound_of_sort
    (fails : architecture.sort = .error (.cyclic cycle)) :
    IsRound (fun later earlier => architecture.Precedes earlier later) cycle := by
  have closed := closed_of_sort_cyclic fails
  rw [sort, closed.order_eq] at fails
  cases sorted : sortPlaces architecture.resources.length architecture.placeEdges with
  | ok order =>
      rw [sorted] at fails
      contradiction
  | error places =>
      rw [sorted] at fails
      obtain rfl := Error.cyclic.inj (Except.error.inj fails)
      exact isRound_ids (isRound_of_sortPlaces placeEdges_inside sorted)

/-- A reported cycle starts and ends with the resource that it is reported for, and has no other
resource twice.  Every resource on it is followed by one that has to be there before it.  So a
resource that does not come before itself is not on it. -/
theorem reported_cycle_is_sound
    (fails : architecture.sort = .error (.cyclic cycle)) :
    2 ≤ cycle.length ∧
    cycle.head? = some (Error.cycleStart cycle) ∧
    cycle.getLast? = some (Error.cycleStart cycle) ∧
    cycle.dropLast.Nodup ∧
    (∃ edges, architecture.provisioningEdges = .ok edges ∧
      cycle.IsChain fun later earlier => ⟨earlier, later⟩ ∈ edges) ∧
    ∀ id, ¬ TransGen architecture.Precedes id id → id ∉ cycle := by
  have round := isRound_of_sort fails
  have onCycle : ∀ id ∈ cycle, TransGen architecture.Precedes id id :=
    fun id member => Relation.transGen_swap.1 (round.on_cycle member)
  have edges := provisioningEdges_of_closed (closed_of_sort_cyclic fails)
  obtain ⟨start, between, rfl, apart, chain⟩ := round
  refine ⟨by simp, rfl, List.getLast?_concat, ?_, ⟨_, edges, ?_⟩, ?_⟩
  · rw [List.dropLast_concat]
    exact apart
  · exact chain.imp fun later earlier precedes => (mem_linkEdges_iff ⟨earlier, later⟩).2 precedes
  · exact fun id notOnCycle member => notOnCycle (onCycle id member)

/-- A server that depends on one of two that depend on each other. -/
def entwined : Architecture where
  provider := .aws
  region := ""
  resources := [
    { Resource.ofType "tail" "Server" with dependsOn := [⟨"left", .uses, .explicit⟩] },
    { Resource.ofType "left" "Server" with dependsOn := [⟨"right", .uses, .explicit⟩] },
    { Resource.ofType "right" "Server" with dependsOn := [⟨"left", .uses, .explicit⟩] }]

/-- The two servers are reported, and not the one that depends on them. -/
theorem reported_cycle_of_entwined :
    ∃ cycle edges, entwined.sort = .error (.cyclic cycle) ∧ cycle = ["left", "right", "left"] ∧
      cycle.dropLast.Nodup ∧ entwined.provisioningEdges = .ok edges ∧
      (cycle.IsChain fun later earlier => ⟨earlier, later⟩ ∈ edges) ∧
      entwined.Precedes "left" "tail" ∧ "tail" ∉ cycle := by
  have fails : entwined.sort = .error (.cyclic ["left", "right", "left"]) := rfl
  obtain ⟨_, _, _, apart, ⟨edges, areEdges, chain⟩, offCycle⟩ := reported_cycle_is_sound fails
  have precedesNothing : ∀ edge ∈ entwined.linkEdges, edge.before ≠ "tail" := by decide
  refine ⟨_, edges, fails, rfl, apart, areEdges, chain, ?_, offCycle "tail" ?_⟩
  · exact (mem_linkEdges_iff ⟨"left", "tail"⟩).1 (by decide)
  · intro around
    obtain ⟨next, precedes, _⟩ := Relation.TransGen.head'_iff.1 around
    exact precedesNothing _ ((mem_linkEdges_iff ⟨"tail", next⟩).2 precedes) rfl

end Architecture

end CloudPlan
