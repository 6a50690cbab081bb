import CloudPlan.Proofs.Architecture.Precedence
import CloudPlan.Proofs.Architecture.SortPlaces
import Mathlib.Data.List.Basic

/-!
# Places of resources

Ids are sorted by their places in the list of resources.  Precedence between ids and
the edges between places have cycles together, and where ids are given once an order
of the places is an order of the ids.
-/

namespace CloudPlan.Architecture

variable {architecture : Architecture}

/-! ## Places of ids -/

/-- A place that is found for an id holds it. -/
theorem getElem?_of_lastIndex?
    {id : String}
    {ids : List String}
    {index : Nat}
    (found : lastIndex? id ids = some index) :
    ids[index]? = some id := by
  induction ids generalizing index with
  | nil => simp [lastIndex?] at found
  | cons first rest inductionHypothesis =>
      rw [lastIndex?] at found
      cases later : lastIndex? id rest with
      | some behind =>
          obtain rfl : behind + 1 = index := by simpa [later] using found
          simpa using inductionHypothesis later
      | none =>
          obtain ⟨rfl, rfl⟩ : first = id ∧ 0 = index := by simpa [later] using found
          rfl

/-- A place is found for every id of a list. -/
theorem exists_lastIndex?
    {id : String}
    {ids : List String}
    (member : id ∈ ids) :
    ∃ index, lastIndex? id ids = some index := by
  induction ids with
  | nil => simp at member
  | cons first rest inductionHypothesis =>
      rw [lastIndex?]
      cases later : lastIndex? id rest with
      | some behind => exact ⟨behind + 1, rfl⟩
      | none =>
          have isFirst : first = id := by
            by_contra different
            obtain ⟨index, found⟩ := inductionHypothesis
              ((List.mem_cons.1 member).resolve_left (Ne.symm different))
            simp [later] at found
          exact ⟨0, by simp [isFirst]⟩

/-- The edges between the places of resources. -/
def placeEdges (architecture : Architecture) : List (Nat × Nat) :=
  architecture.linkEdges.filterMap (edgeIndexes? architecture.ids)

/-- Edges between places are those between the ids that the places hold. -/
theorem mem_placeEdges_iff (first second : Nat) :
    (first, second) ∈ architecture.placeEdges ↔
      ∃ before after, architecture.Precedes before after ∧
        lastIndex? before architecture.ids = some first ∧
        lastIndex? after architecture.ids = some second := by
  simp only [placeEdges, List.mem_filterMap, mem_linkEdges_iff, edgeIndexes?]
  constructor
  · rintro ⟨⟨before, after⟩, precedes, isEdge⟩
    obtain ⟨index, found, isSecond⟩ := Option.bind_eq_some_iff.1 isEdge
    obtain ⟨other, otherFound, isPair⟩ := Option.bind_eq_some_iff.1 isSecond
    obtain ⟨rfl, rfl⟩ := Prod.mk.inj (Option.some.inj isPair)
    exact ⟨before, after, precedes, found, otherFound⟩
  · rintro ⟨before, after, precedes, found, otherFound⟩
    exact ⟨⟨before, after⟩, precedes, by simp [found, otherFound]⟩

/-- Edges between places stay inside the list of resources. -/
theorem placeEdges_inside :
    ∀ edge ∈ architecture.placeEdges,
      edge.1 < architecture.resources.length ∧ edge.2 < architecture.resources.length := by
  rintro ⟨first, second⟩ member
  obtain ⟨before, after, _, found, otherFound⟩ := (mem_placeEdges_iff first second).1 member
  have length : architecture.ids.length = architecture.resources.length := List.length_map _
  rw [← length]
  exact ⟨(List.getElem?_eq_some_iff.1 (getElem?_of_lastIndex? found)).1,
    (List.getElem?_eq_some_iff.1 (getElem?_of_lastIndex? otherFound)).1⟩

/-- Where all links lead somewhere, ids have a cycle exactly when their places have one. -/
theorem Closed.acyclic_placeEdges_iff
    (closed : architecture.Closed) :
    (Acyclic fun first second => (first, second) ∈ architecture.placeEdges) ↔
      Acyclic architecture.Precedes := by
  constructor
  · intro acyclic
    refine acyclic.of_map (fun id => (lastIndex? id architecture.ids).getD 0) ?_
    intro before after precedes
    obtain ⟨beforeMember, afterMember⟩ := closed.mem_ids precedes
    obtain ⟨first, found⟩ := exists_lastIndex? beforeMember
    obtain ⟨second, otherFound⟩ := exists_lastIndex? afterMember
    rw [found, otherFound]
    exact (mem_placeEdges_iff first second).2 ⟨before, after, precedes, found, otherFound⟩
  · intro acyclic
    refine acyclic.of_map (fun place => architecture.ids[place]?.getD "") ?_
    intro first second member
    obtain ⟨before, after, precedes, found, otherFound⟩ :=
      (mem_placeEdges_iff first second).1 member
    rw [getElem?_of_lastIndex? found, getElem?_of_lastIndex? otherFound]
    exact precedes

/-! ## Arranging what places hold -/

section Arranging

variable {α : Type} (members : List α)

/-- All places in turn hold the members in turn. -/
theorem filterMap_getElem?_range :
    (List.range members.length).filterMap (members[·]?) = members := by
  induction members with
  | nil => rfl
  | cons first rest inductionHypothesis =>
      rw [List.length_cons, List.range_succ_eq_map, List.filterMap_cons]
      simpa [List.filterMap_map, Function.comp_def] using inductionHypothesis

/-- Rearranging all places rearranges the members. -/
theorem filterMap_getElem?_perm
    {places : List Nat}
    (everyPlace : places.Perm (List.range members.length)) :
    (places.filterMap (members[·]?)).Perm members := by
  have arranged := everyPlace.filterMap (members[·]?)
  rwa [filterMap_getElem?_range] at arranged

/-- Members that occur once are found again where they were taken from. -/
theorem map_idxOf_filterMap_getElem?
    [DecidableEq α]
    (apart : members.Nodup)
    {places : List Nat}
    (inside : ∀ place ∈ places, place < members.length) :
    (places.filterMap (members[·]?)).map members.idxOf = places := by
  induction places with
  | nil => rfl
  | cons place rest inductionHypothesis =>
      obtain ⟨placeInside, restInside⟩ := List.forall_mem_cons.1 inside
      rw [List.filterMap_cons, List.getElem?_eq_getElem placeInside, List.map_cons,
        apart.idxOf_getElem, inductionHypothesis restInside]

end Arranging

/-- The places of all resources, in an order in which whatever precedes a resource stands
before it. -/
def IsProvisioningOrder (architecture : Architecture) (places : List Nat) : Prop :=
  places.Perm (List.range architecture.resources.length) ∧
    ∀ before after, architecture.Precedes before after →
      [before, after].Sublist (places.filterMap (architecture.ids[·]?))

/-- Where ids are given once and links lead somewhere, orders of places and of ids agree. -/
theorem Closed.isProvisioningOrder_iff
    (closed : architecture.Closed)
    (distinct : architecture.ids.Nodup)
    (places : List Nat) :
    architecture.IsProvisioningOrder places ↔
      IsOrder architecture.resources.length architecture.placeEdges places := by
  constructor
  · rintro ⟨everyPlace, respected⟩
    refine ⟨everyPlace, ?_⟩
    rintro ⟨first, second⟩ member
    obtain ⟨before, after, precedes, found, otherFound⟩ :=
      (mem_placeEdges_iff first second).1 member
    have inside : ∀ place ∈ places, place < architecture.ids.length := by
      intro place placeMember
      simpa [ids] using everyPlace.mem_iff.1 placeMember
    have standing := (respected before after precedes).map architecture.ids.idxOf
    rw [map_idxOf_filterMap_getElem? _ distinct inside] at standing
    obtain ⟨firstInside, rfl⟩ := List.getElem?_eq_some_iff.1 (getElem?_of_lastIndex? found)
    obtain ⟨secondInside, rfl⟩ := List.getElem?_eq_some_iff.1 (getElem?_of_lastIndex? otherFound)
    simpa [distinct.idxOf_getElem] using standing
  · rintro ⟨everyPlace, respected⟩
    refine ⟨everyPlace, ?_⟩
    intro before after precedes
    obtain ⟨beforeMember, afterMember⟩ := closed.mem_ids precedes
    obtain ⟨first, found⟩ := exists_lastIndex? beforeMember
    obtain ⟨second, otherFound⟩ := exists_lastIndex? afterMember
    have standing := respected (first, second)
      ((mem_placeEdges_iff first second).2 ⟨before, after, precedes, found, otherFound⟩)
    simpa [getElem?_of_lastIndex? found, getElem?_of_lastIndex? otherFound] using
      standing.filterMap (architecture.ids[·]?)

end CloudPlan.Architecture
