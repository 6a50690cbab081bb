import CloudPlan.Proofs.Diagram.Acceptance

/-!
# Reported containment cycles

The last check of a diagram walks from a node to its container and on.  Where it fails, what
it reports is a round of containers: it starts and ends with the node that is blamed, and no
other node stands on it twice.  A node that merely hangs below the round is not on it.
-/

namespace CloudPlan.Diagram

open Relation (TransGen)

variable {diagram : Diagram} {graph : Graph}

/-- No node is its own container when the checks before the last one pass. -/
theorem Resolvable.container?_ne_self
    (resolvable : diagram.Resolvable)
    (id : String) :
    diagram.container? id ≠ some id := by
  rw [ne_eq, container?_eq_some_iff resolvable.nodesApart resolvable.agreeing]
  rintro (⟨edge, member, rfl, loop⟩ | ⟨noEdge, node, member, rfl, declares⟩)
  · exact resolvable.noLoop edge member loop
  · exact resolvable.noSelfParent node member noEdge declares

/-- Where the last check of a diagram fails, the error names a round of containers: at least two
nodes, each followed by its container, from the node that is blamed back to it.  A node that is
not inside itself is not on the round. -/
theorem reported_containment_cycle_is_sound
    {error : Error}
    (resolved : diagram.resolution = .ok graph)
    (fails : checkForest graph = .error error) :
    diagram.toGraph = .error error ∧
    ∃ node path, error = .cycle node path ∧
      error.code = "InvalidContainmentGraph" ∧
      error.node? = some node ∧
      error.reason = "containment cycle " ++ " -> ".intercalate path ∧
      3 ≤ path.length ∧
      path.head? = some node ∧
      path.getLast? = some node ∧
      path.dropLast.Nodup ∧
      (path.IsChain fun id container => diagram.container? id = some container) ∧
      ∀ id, ¬ TransGen (StepsTo diagram.container?) id id → id ∉ path := by
  obtain ⟨resolvable, rfl⟩ := (resolution_eq_ok_iff diagram graph).1 resolved
  have joined := joined_resolvedGraph resolvable.nodesApart resolvable.endsKnown
    resolvable.parentsKnown
  obtain ⟨start, between, rfl, round⟩ := exists_round_of_checkForest joined fails
  rw [parentId?_resolvedGraph resolvable.nodesApart resolvable.endsKnown] at round
  have onCycle : ∀ id ∈ start :: (between ++ [start]),
      TransGen (StepsTo diagram.container?) id id := fun _ => round.on_cycle
  obtain ⟨_, _, same, apart, chain⟩ := round
  obtain ⟨⟨⟩, _⟩ := List.append_inj' same rfl
  have nonempty : between ≠ [] := by
    rintro rfl
    have loop : StepsTo diagram.container? start start := List.isChain_pair.1 chain
    exact resolvable.container?_ne_self start loop
  refine ⟨?_, start, _, rfl, rfl, rfl, rfl, ?_, rfl, List.getLast?_concat, ?_, chain, ?_⟩
  · rw [toGraph_eq, resolved, ok_bind, fails]
  · have := List.length_pos_iff.2 nonempty
    rw [List.length_append, List.length_cons, List.length_singleton]
    omega
  · rw [List.dropLast_concat]
    exact apart
  · exact fun id notInside member => notInside (onCycle id member)

/-- A database on its own, and a server in a network that is drawn in a zone which, in turn,
declares the network. -/
def entwinedNetwork : Diagram where
  nodes := [
    { id := "db", typeName := "Database" },
    { id := "web", typeName := "Server", parentId := some "net" },
    { id := "net", typeName := "Network" },
    { id := "zone", typeName := "Zone", parentId := some "net" }]
  edges := [{ id := "inside", source := "zone", target := "net", kind := .containment }]

/-- Network and zone are reported, and not the server below them.  The walk from the database is
over by then. -/
theorem reported_cycle_of_entwinedNetwork :
    ∃ graph error path, entwinedNetwork.resolution = .ok graph ∧
      checkForest graph = .error error ∧
      entwinedNetwork.toGraph = .error error ∧
      error = .cycle "net" path ∧ path = ["net", "zone", "net"] ∧ path.dropLast.Nodup ∧
      entwinedNetwork.container? "web" = some "net" ∧ "web" ∉ path := by
  have resolved : entwinedNetwork.resolution = .ok entwinedNetwork.resolvedGraph := rfl
  have fails : checkForest entwinedNetwork.resolvedGraph =
      .error (.cycle "net" ["net", "zone", "net"]) := rfl
  obtain ⟨refused, node, path, same, _, _, _, _, _, _, apart, _, offCycle⟩ :=
    reported_containment_cycle_is_sound resolved fails
  obtain ⟨rfl, rfl⟩ := Error.cycle.inj same
  refine ⟨_, _, _, resolved, fails, refused, rfl, rfl, apart, rfl, offCycle "web" ?_⟩
  intro around
  obtain ⟨inner, _, isContainer⟩ := TransGen.tail'_iff.1 around
  have resolvable := ((resolution_eq_ok_iff _ _).1 resolved).1
  rw [StepsTo, container?_eq_some_iff resolvable.nodesApart resolvable.agreeing] at isContainer
  simp [entwinedNetwork, containments] at isContainer

end CloudPlan.Diagram
