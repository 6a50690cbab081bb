import CloudPlan.Proofs.Architecture.Places
import CloudPlan.Proofs.Outcome

/-!
# Provisioning order

An architecture all of whose links lead somewhere can be ordered exactly when
precedence has no cycle.  Its resources are then rearranged, each behind whatever
precedes it, and of all such arrangements the one with the least sequence of places
is taken.  A link that leads nowhere makes the architecture invalid.
-/

namespace CloudPlan.Architecture

variable {architecture : Architecture}

/-- The architecture with its resources arranged by their places. -/
def arranged (architecture : Architecture) (places : List Nat) : Architecture :=
  { architecture with
    resources := places.filterMap (architecture.resources[·]?)
    ordered := true }

@[simp] theorem ids_arranged (architecture : Architecture) (places : List Nat) :
    (architecture.arranged places).ids = places.filterMap (architecture.ids[·]?) := by
  simp [ids, arranged, List.map_filterMap]

theorem Closed.order_eq
    (closed : architecture.Closed) :
    architecture.order =
      match sortPlaces architecture.resources.length architecture.placeEdges with
      | .ok order => .ok order
      | .error cycle => .error (.cyclic (cycle.filterMap (architecture.ids[·]?))) := by
  rw [order, provisioningEdges_of_closed closed]
  rfl

theorem Closed.order_eq_ok_iff
    (closed : architecture.Closed)
    (places : List Nat) :
    architecture.order = .ok places ↔
      sortPlaces architecture.resources.length architecture.placeEdges = .ok places := by
  rw [closed.order_eq]
  cases sortPlaces architecture.resources.length architecture.placeEdges <;> simp

theorem sort_eq_ok_iff (sorted : Architecture) :
    architecture.sort = .ok sorted ↔
      ∃ places, architecture.order = .ok places ∧ architecture.arranged places = sorted := by
  rw [sort, bind_eq_ok_iff]
  refine exists_congr fun places => and_congr_right fun _ => ?_
  change Except.ok (architecture.arranged places) = .ok sorted ↔ _
  rw [Except.ok.injEq]

/-- Sorting fails with a link that leads nowhere, or else with a cycle only. -/
theorem Closed.sort_eq_cyclic
    (closed : architecture.Closed)
    (fails : ¬ ∃ sorted, architecture.sort = .ok sorted) :
    ∃ cycle, architecture.sort = .error (.cyclic cycle) := by
  cases places : sortPlaces architecture.resources.length architecture.placeEdges with
  | ok order =>
      exact absurd ⟨_, (sort_eq_ok_iff _).2 ⟨order, (closed.order_eq_ok_iff order).2 places, rfl⟩⟩
        fails
  | error cycle =>
      refine ⟨cycle.filterMap (architecture.ids[·]?), ?_⟩
      rw [sort, closed.order_eq, places]
      rfl

/-- Where all links lead somewhere, sorting succeeds exactly when nothing precedes itself. -/
theorem Closed.sort_succeeds_iff
    (closed : architecture.Closed) :
    (∃ sorted, architecture.sort = .ok sorted) ↔ Acyclic architecture.Precedes := by
  rw [← closed.acyclic_placeEdges_iff, ← sortPlaces_succeeds_iff placeEdges_inside]
  simp only [sort_eq_ok_iff, closed.order_eq_ok_iff]
  constructor
  · rintro ⟨_, places, sorted, _⟩
    exact ⟨places, sorted⟩
  · rintro ⟨places, sorted⟩
    exact ⟨_, places, sorted, rfl⟩

theorem sort_of_not_closed
    (dangling : ¬ architecture.Closed) :
    ∃ link ∈ architecture.links, link.target ∉ architecture.ids ∧
      architecture.sort = .error (.unknownLink link.owner link.relation link.target) := by
  obtain ⟨link, member, unknown, reported⟩ := provisioningEdges_of_not_closed dangling
  refine ⟨link, member, unknown, ?_⟩
  rw [sort, order, reported]
  rfl

/-- The places of a sorted architecture are in provisioning order, and least among such. -/
theorem Closed.isLeast_order
    (closed : architecture.Closed)
    (distinct : architecture.ids.Nodup)
    {places : List Nat}
    (ordered : architecture.order = .ok places) :
    architecture.IsProvisioningOrder places ∧
      ∀ other, architecture.IsProvisioningOrder other → places ≤ other := by
  have sorted := (closed.order_eq_ok_iff places).1 ordered
  constructor
  · exact (closed.isProvisioningOrder_iff distinct places).2
      (isOrder_of_sortPlaces placeEdges_inside sorted)
  · intro other isOrder
    exact le_of_sortPlaces placeEdges_inside sorted
      ((closed.isProvisioningOrder_iff distinct other).1 isOrder)

/-- Sorting keeps all resources. -/
theorem Closed.perm_of_sort
    (closed : architecture.Closed)
    (distinct : architecture.ids.Nodup)
    {sorted : Architecture}
    (succeeds : architecture.sort = .ok sorted) :
    sorted.resources.Perm architecture.resources := by
  obtain ⟨places, ordered, rfl⟩ := (sort_eq_ok_iff sorted).1 succeeds
  exact filterMap_getElem?_perm _ (closed.isLeast_order distinct ordered).1.1

/-- Sorting provides whatever can be provided, each resource behind all that precedes it,
and otherwise in the order of the list. -/
theorem sort_provides_least_order
    (architecture : Architecture) :
    (architecture.ids.Nodup → architecture.Closed →
      (∃ edges, architecture.provisioningEdges = .ok edges ∧ edges.Nodup ∧
        ∀ edge, edge ∈ edges ↔ architecture.Precedes edge.before edge.after) ∧
      ((∃ sorted, architecture.sort = .ok sorted) ↔ Acyclic architecture.Precedes) ∧
      ∀ sorted, architecture.sort = .ok sorted →
        sorted.resources.Perm architecture.resources ∧
        (∀ before after, architecture.Precedes before after →
          [before, after].Sublist sorted.ids) ∧
        ∃ places, architecture.order = .ok places ∧
          sorted = architecture.arranged places ∧
          architecture.IsProvisioningOrder places ∧
          ∀ other, architecture.IsProvisioningOrder other → places ≤ other) ∧
    (¬ architecture.Closed →
      ∃ error, architecture.sort = .error error ∧ error.code = "InvalidArchitecture") := by
  constructor
  · intro distinct closed
    refine ⟨⟨_, provisioningEdges_of_closed closed, nodup_linkEdges, mem_linkEdges_iff⟩,
      closed.sort_succeeds_iff, ?_⟩
    intro sorted succeeds
    obtain ⟨places, ordered, rfl⟩ := (sort_eq_ok_iff sorted).1 succeeds
    obtain ⟨isOrder, least⟩ := closed.isLeast_order distinct ordered
    refine ⟨filterMap_getElem?_perm _ isOrder.1, ?_, places, ordered, rfl, isOrder, least⟩
    rw [ids_arranged]
    exact isOrder.2
  · intro dangling
    obtain ⟨link, _, _, reported⟩ := sort_of_not_closed dangling
    exact ⟨_, reported, rfl⟩

/-- A server whose containment is declared from both ends, and that comes too early. -/
def tooEarly : Architecture where
  provider := .aws
  region := ""
  resources := [
    { Resource.ofType "web" "Server" with
      parents := ["net"], dependsOn := [⟨"db", .uses, .explicit⟩] },
    { Resource.ofType "net" "Network" with children := ["web"] },
    Resource.ofType "db" "Server"]

/-- The server moves behind its network and its database, which keep their order. -/
theorem sort_tooEarly :
    tooEarly.ids.Nodup ∧ tooEarly.Closed ∧
    (∃ sorted, tooEarly.sort = .ok sorted ∧ sorted.ids = ["net", "db", "web"]) ∧
    Acyclic tooEarly.Precedes ∧
    ∀ other, tooEarly.IsProvisioningOrder other → [1, 2, 0] ≤ other := by
  have distinct : tooEarly.ids.Nodup := by decide
  have closed : tooEarly.Closed := closed_iff_links.2 (by decide)
  have sorts : ∃ sorted, tooEarly.sort = .ok sorted ∧ sorted.ids = ["net", "db", "web"] :=
    ⟨_, rfl, rfl⟩
  have ordered : tooEarly.order = .ok [1, 2, 0] := rfl
  obtain ⟨_, succeeds, sorted⟩ := (sort_provides_least_order tooEarly).1 distinct closed
  obtain ⟨result, isSorted, sortedIds⟩ := sorts
  obtain ⟨_, _, places, isPlaces, _, _, least⟩ := sorted result isSorted
  obtain rfl := Except.ok.inj (ordered.symm.trans isPlaces)
  exact ⟨distinct, closed, ⟨result, isSorted, sortedIds⟩, succeeds.1 ⟨result, isSorted⟩, least⟩

end CloudPlan.Architecture
