import CloudPlan.Proofs.Architecture.Session

/-!
# Sorting again

Where every resource already stands behind all that has to be there before it, taking the
places in turn is an order, and of all orders of the places it is the least.  So a sort
leaves the resources where they are, and a second sort changes nothing.
-/

namespace CloudPlan

/-- Rearranging ascending numbers does not make a smaller list of them. -/
theorem le_of_perm_of_ascending
    {numbers other : List Nat}
    (ascending : numbers.Pairwise (· < ·))
    (rearranged : other.Perm numbers) :
    numbers ≤ other := by
  induction other generalizing numbers with
  | nil =>
      rw [List.nil_perm.1 rearranged]
  | cons first rest inductionHypothesis =>
      cases numbers with
      | nil => exact absurd rearranged.length_eq (by simp)
      | cons least others =>
          obtain ⟨isLeast, othersAscending⟩ := List.pairwise_cons.1 ascending
          rcases List.mem_cons.1 (rearranged.subset List.mem_cons_self) with rfl | later
          · have restRearranged : rest.Perm others := rearranged.cons_inv
            exact List.cons_le_cons first (inductionHypothesis othersAscending restRearranged)
          · exact le_of_lt (List.Lex.rel (isLeast first later))

namespace Architecture

variable {architecture sorted : Architecture}

/-- Where every resource stands behind all that has to be there before it, nothing comes before
itself. -/
theorem InOrder.acyclic
    (inOrder : architecture.InOrder)
    (distinct : architecture.ids.Nodup) :
    Acyclic architecture.Precedes :=
  Acyclic.of_rank architecture.ids.idxOf fun before after precedes =>
    idxOf_lt_idxOf_of_pair_sublist distinct (inOrder before after precedes)

/-- Resources are in order exactly when taking their places in turn is an order. -/
theorem isProvisioningOrder_range_iff :
    architecture.IsProvisioningOrder (List.range architecture.resources.length) ↔
      architecture.InOrder := by
  have inTurn : (List.range architecture.resources.length).filterMap (architecture.ids[·]?) =
      architecture.ids := by
    have everyPlace := filterMap_getElem?_range architecture.ids
    rwa [ids, List.length_map] at everyPlace
  rw [IsProvisioningOrder, inTurn]
  exact and_iff_right (List.Perm.refl _)

/-- A sort leaves resources that are in order where they are. -/
theorem Closed.order_eq_range
    (closed : architecture.Closed)
    (distinct : architecture.ids.Nodup)
    (inOrder : architecture.InOrder) :
    architecture.order = .ok (List.range architecture.resources.length) := by
  obtain ⟨_, succeeds⟩ := closed.sort_succeeds_iff.2 (inOrder.acyclic distinct)
  obtain ⟨places, ordered, _⟩ := (sort_eq_ok_iff _).1 succeeds
  obtain ⟨⟨everyPlace, _⟩, least⟩ := closed.isLeast_order distinct ordered
  have atMost : places ≤ List.range architecture.resources.length :=
    least _ (isProvisioningOrder_range_iff.2 inOrder)
  have atLeast : List.range architecture.resources.length ≤ places :=
    le_of_perm_of_ascending List.pairwise_lt_range everyPlace
  rw [ordered, le_antisymm atMost atLeast]

/-- A sort of resources that are in order does nothing but mark them as ordered. -/
theorem Closed.sort_of_inOrder
    (closed : architecture.Closed)
    (distinct : architecture.ids.Nodup)
    (inOrder : architecture.InOrder) :
    architecture.sort = .ok { architecture with ordered := true } := by
  refine (sort_eq_ok_iff _).2 ⟨_, closed.order_eq_range distinct inOrder, ?_⟩
  rw [arranged, filterMap_getElem?_range]

/-- What a sort has put into order a second sort leaves as it is. -/
theorem sort_of_sorted
    (distinct : architecture.ids.Nodup)
    (succeeds : architecture.sort = .ok sorted) :
    sorted.sort = .ok sorted := by
  have closed := closed_of_sort succeeds
  have resources : sorted.resources.Perm architecture.resources :=
    closed.perm_of_sort distinct succeeds
  have sameIds : sorted.ids.Perm architecture.ids := resources.map _
  have marked : { sorted with ordered := true } = sorted := by
    obtain ⟨_, _, rfl⟩ := (sort_eq_ok_iff sorted).1 succeeds
    rfl
  have again := (closed.of_perm resources).sort_of_inOrder (sameIds.nodup_iff.2 distinct)
    (closed.inOrder_of_sort distinct succeeds)
  rwa [marked] at again

/-- The server that comes too early is moved by the first sort, and not by the second one. -/
theorem sort_of_sorted_tooEarly :
    tooEarly.ids.Nodup ∧
    ∃ sorted, tooEarly.sort = .ok sorted ∧ sorted.ids ≠ tooEarly.ids ∧
      sorted.sort = .ok sorted := by
  have distinct : tooEarly.ids.Nodup := by decide
  have succeeds : tooEarly.sort = .ok (tooEarly.arranged [1, 2, 0]) := rfl
  exact ⟨distinct, _, succeeds, by decide, sort_of_sorted distinct succeeds⟩

end Architecture

end CloudPlan
