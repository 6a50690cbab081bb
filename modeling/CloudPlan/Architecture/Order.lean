import CloudPlan.Architecture.Basic

/-!
# Provisioning order

Containers come before their contents and prerequisites before what depends on
them.  Of the resources that may come next the one that stands first comes first.
-/

namespace CloudPlan.Architecture

/-- One resource has to be there before another. -/
structure ProvisioningEdge where
  /-- The id of the resource that comes first. -/
  before : String
  /-- The id of the resource that comes later. -/
  after : String
deriving DecidableEq

/-- A link that a resource declares: what it leads to, and the edge it makes. -/
structure Link where
  /-- The resource that declares the link. -/
  owner : String
  /-- What the link leads to. -/
  relation : Relation
  /-- The id that the link names. -/
  target : String

namespace Link

/-- The provisioning edge that a link makes. -/
def edge (link : Link) : ProvisioningEdge :=
  match link.relation with
  | .parent => ⟨link.target, link.owner⟩
  | .child => ⟨link.owner, link.target⟩
  | .dependency => ⟨link.target, link.owner⟩

/-- The links of a resource: to parents, to children, to dependencies. -/
def ofResource (resource : Resource) : List Link :=
  resource.parents.map (⟨resource.id, .parent, ·⟩) ++
    resource.children.map (⟨resource.id, .child, ·⟩) ++
    resource.targets.map (⟨resource.id, .dependency, ·⟩)

end Link

/-- The links of all resources. -/
def links (architecture : Architecture) : List Link :=
  architecture.resources.flatMap Link.ofResource

/-- The first link that names no resource. -/
def danglingLink? (architecture : Architecture) : Option Link :=
  architecture.links.find? (·.target ∉ architecture.ids)

/-- Every provisioning edge once, in the order in which links declare them. -/
def provisioningEdges (architecture : Architecture) : Except Error (List ProvisioningEdge) :=
  match architecture.danglingLink? with
  | some link => .error (.unknownLink link.owner link.relation link.target)
  | none => .ok (architecture.links.map Link.edge).eraseDups

/-- The place of the last occurrence of an id. -/
def lastIndex? (id : String) : List String → Option Nat
  | [] => none
  | other :: rest =>
    match lastIndex? id rest with
    | some index => some (index + 1)
    | none => if other = id then some 0 else none

/-- The places of the ends of an edge. -/
def edgeIndexes? (ids : List String) (edge : ProvisioningEdge) : Option (Nat × Nat) := do
  return (← lastIndex? edge.before ids, ← lastIndex? edge.after ids)

/-! ## Sorting places -/

/-- How far a sort has come. -/
structure SortState where
  /-- For each place, the number of edges into it from places that are not placed yet. -/
  pending : List Nat
  /-- The places without pending edges that are not placed yet, in ascending order. -/
  ready : List Nat
  /-- The places in their order so far, the last one first. -/
  placed : List Nat

namespace SortState

/-- Before anything is placed. -/
def start (size : Nat) (edges : List (Nat × Nat)) : SortState :=
  let pending := (List.range size).map fun place => edges.countP (·.2 == place)
  { pending
    ready := (List.range size).filter fun place => pending.getD place 0 == 0
    placed := [] }

/-- A place among ascending places. -/
def insertAscending (place : Nat) : List Nat → List Nat
  | [] => [place]
  | other :: rest =>
    if place < other then place :: other :: rest
    else if place = other then other :: rest
    else other :: insertAscending place rest

/-- One edge into a place is pending no longer. -/
def release (state : SortState) (place : Nat) : SortState :=
  let pending := state.pending.modify place (· - 1)
  { state with
    pending
    ready :=
      if pending.getD place 0 = 0 then insertAscending place state.ready else state.ready }

/-- Places the first ready place and releases what follows it. -/
def advance (edges : List (Nat × Nat)) (next : Nat) (rest : List Nat) (state : SortState) :
    SortState :=
  ((edges.filter (·.1 == next)).map (·.2)).foldl release
    { state with ready := rest, placed := next :: state.placed }

/-- Places ready places, at most so many of them. -/
def run (edges : List (Nat × Nat)) : Nat → SortState → SortState
  | 0, state => state
  | fuel + 1, state =>
    match state.ready with
    | [] => state
    | next :: rest => run edges fuel (state.advance edges next rest)

/-- A place with pending edges. -/
def isBlocked (state : SortState) (place : Nat) : Bool :=
  0 < state.pending.getD place 0

/-- The first blocked place with an edge into the given one. -/
def blocker? (edges : List (Nat × Nat)) (state : SortState) (place : Nat) : Option Nat :=
  (((edges.filter (·.2 == place)).map (·.1)).filter state.isBlocked).min?

/--
The way back along blocked places, the last one first, until a place comes again: then
the part of the way from that place on, and the place once more.
-/
def walkBack (edges : List (Nat × Nat)) (state : SortState) : Nat → List Nat → Nat → List Nat
  | 0, path, place => (place :: path).reverse
  | fuel + 1, path, place =>
    if place ∈ path then
      path.reverse.dropWhile (· != place) ++ [place]
    else
      match state.blocker? edges place with
      | some previous => walkBack edges state fuel (place :: path) previous
      | none => (place :: path).reverse

/-- A cycle among the blocked places. -/
def cycle (size : Nat) (edges : List (Nat × Nat)) (state : SortState) : List Nat :=
  match (List.range size).find? state.isBlocked with
  | some place => walkBack edges state (size + 1) [] place
  | none => []

end SortState

/-- Places in order of their edges, or a cycle of places. -/
def sortPlaces (size : Nat) (edges : List (Nat × Nat)) : Except (List Nat) (List Nat) :=
  let final := SortState.run edges size (SortState.start size edges)
  if final.placed.length < size then
    .error (final.cycle size edges)
  else
    .ok final.placed.reverse

/-- The order in which the resources can be provided, as places in the list of resources. -/
def order (architecture : Architecture) : Except Error (List Nat) := do
  let edges ← architecture.provisioningEdges
  let places := edges.filterMap (edgeIndexes? architecture.ids)
  match sortPlaces architecture.resources.length places with
  | .ok order => return order
  | .error cycle =>
    throw (.cyclic (cycle.filterMap fun place => architecture.ids[place]?))

/-- The architecture with its resources in an order in which they can be provided. -/
def sort (architecture : Architecture) : Except Error Architecture := do
  let order ← architecture.order
  return { architecture with
    resources := order.filterMap fun place => architecture.resources[place]?
    ordered := true }

end CloudPlan.Architecture
