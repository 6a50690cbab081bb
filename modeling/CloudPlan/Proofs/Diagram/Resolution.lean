import CloudPlan.Proofs.Diagram.Checks
import CloudPlan.Proofs.Diagram.Containment
import CloudPlan.Proofs.Diagram.Forest
import CloudPlan.Proofs.Lookup

/-!
# What diagrams resolve to

What it takes for a diagram to be accepted, said without the passes that check it,
and the graph that the passes then give.
-/

namespace CloudPlan

namespace Diagram

/-- The ids of the nodes, in document order. -/
def ids (diagram : Diagram) : List String :=
  diagram.nodes.map (·.id)

/-- The drawn containment edges, in document order. -/
def containments (diagram : Diagram) : List Edge :=
  diagram.edges.filter (·.kind == .containment)

/-- The dependency edges with their flavours, in document order. -/
def dependencies (diagram : Diagram) : List Edge :=
  (diagram.edges.filter (·.kind == .dependency)).map fun edge =>
    { edge with dependencyType := some edge.flavour }

/-- The container of a node: the source of a containment edge into it when there is one,
otherwise the container that the node declares. -/
def container? (diagram : Diagram) (id : String) : Option String :=
  match diagram.containments.find? (·.target == id) with
  | some edge => some edge.source
  | none => (diagram.nodes.find? (·.id == id)).bind (·.parentId)

/-- What an accepted diagram satisfies. -/
structure Acceptable (diagram : Diagram) : Prop where
  /-- Every node has an id and a type. -/
  named : ∀ node ∈ diagram.nodes,
    Text.isBlankText node.id = false ∧ Text.isBlankText node.typeName = false
  /-- No two nodes have the same id. -/
  nodesApart : diagram.ids.Nodup
  /-- No two edges have the same id. -/
  edgesApart : (diagram.edges.map (·.id)).Nodup
  /-- Every edge joins nodes of the diagram. -/
  endsKnown : ∀ edge ∈ diagram.edges, edge.source ∈ diagram.ids ∧ edge.target ∈ diagram.ids
  /-- Every declared container is a node of the diagram. -/
  parentsKnown : ∀ node ∈ diagram.nodes, ∀ parent, node.parentId = some parent →
    parent ∈ diagram.ids
  /-- No containment edge is a loop. -/
  noLoop : ∀ edge ∈ diagram.containments, edge.source ≠ edge.target
  /-- All containment edges into one node have the same source. -/
  agreeing : Agreeing diagram.containments
  /-- A node that no containment edge enters does not declare itself as its container. -/
  noSelfParent : ∀ node ∈ diagram.nodes,
    (∀ edge ∈ diagram.containments, edge.target ≠ node.id) → node.parentId ≠ some node.id
  /-- No node contains itself, however indirectly. -/
  acyclic : Acyclic (StepsTo diagram.container?)

/-- The graph of a diagram, accepted or not. -/
def resolvedGraph (diagram : Diagram) : Graph where
  nodes := diagram.nodes
  containment := diagram.nodes.filterMap (resolvedEdge? diagram.containments)
  dependency := diagram.dependencies

@[simp] theorem ids_resolvedGraph (diagram : Diagram) :
    diagram.resolvedGraph.ids = diagram.ids := rfl

/-- A container is the source of a containment edge or is declared by the node. -/
theorem container?_of_find?_node
    {diagram : Diagram}
    {node : Node}
    (found : diagram.nodes.find? (·.id == node.id) = some node) :
    (resolvedEdge? diagram.containments node).map (·.source) = diagram.container? node.id := by
  unfold resolvedEdge? container?
  cases diagram.containments.find? (·.target == node.id) with
  | some edge => rfl
  | none =>
      rw [found]
      change ((node.parentId.map (declaredEdge node)).map (·.source)) = node.parentId
      cases node.parentId <;> rfl

/-- Only nodes have containers. -/
theorem container?_eq_none_of_not_mem
    {diagram : Diagram}
    (endsKnown : ∀ edge ∈ diagram.edges, edge.source ∈ diagram.ids ∧ edge.target ∈ diagram.ids)
    {id : String}
    (unknown : id ∉ diagram.ids) :
    diagram.container? id = none := by
  have noEdge : diagram.containments.find? (·.target == id) = none := by
    rw [find?_name_eq_none_iff, List.mem_map]
    rintro ⟨edge, member, rfl⟩
    exact unknown (endsKnown edge (List.mem_of_mem_filter member)).2
  have noNode : diagram.nodes.find? (·.id == id) = none :=
    find?_name_eq_none_iff.2 unknown
  rw [container?, noEdge, noNode]
  rfl

/-- The edges of nodes enter the nodes that have one. -/
theorem map_target_resolvedEdges
    (drawn : List Edge)
    (nodes : List Node) :
    (nodes.filterMap (resolvedEdge? drawn)).map (·.target) =
      (nodes.filter fun node => (resolvedEdge? drawn node).isSome).map (·.id) := by
  induction nodes with
  | nil => rfl
  | cons node rest inductionHypothesis =>
      cases resolved : resolvedEdge? drawn node with
      | none => simpa [resolved] using inductionHypothesis
      | some edge =>
          simpa [resolved, target_of_resolvedEdge? resolved] using inductionHypothesis

/-- No two containment edges of the graph enter the same node. -/
theorem targets_resolvedGraph_nodup
    {diagram : Diagram}
    (nodesApart : diagram.ids.Nodup) :
    (diagram.resolvedGraph.containment.map (·.target)).Nodup := by
  rw [resolvedGraph, map_target_resolvedEdges]
  exact nodesApart.sublist (List.filter_sublist.map _)

/-- In the graph of a diagram nodes are contained in their containers. -/
theorem parentId?_resolvedGraph
    {diagram : Diagram}
    (nodesApart : diagram.ids.Nodup)
    (endsKnown : ∀ edge ∈ diagram.edges, edge.source ∈ diagram.ids ∧ edge.target ∈ diagram.ids) :
    diagram.resolvedGraph.parentId? = diagram.container? := by
  funext id
  rw [Graph.parentId?_eq (targets_resolvedGraph_nodup nodesApart), resolvedGraph,
    find?_resolvedEdges _ nodesApart]
  cases found : diagram.nodes.find? (·.id == id) with
  | none =>
      rw [container?_eq_none_of_not_mem endsKnown (find?_name_eq_none_iff.1 found)]
      rfl
  | some node =>
      obtain rfl : node.id = id := by simpa using List.find?_some found
      exact container?_of_find?_node found

/-- Containers are nodes, and so is what they contain. -/
theorem joined_resolvedGraph
    {diagram : Diagram}
    (nodesApart : diagram.ids.Nodup)
    (endsKnown : ∀ edge ∈ diagram.edges, edge.source ∈ diagram.ids ∧ edge.target ∈ diagram.ids)
    (parentsKnown : ∀ node ∈ diagram.nodes, ∀ parent, node.parentId = some parent →
      parent ∈ diagram.ids) :
    diagram.resolvedGraph.Joined := by
  intro id parent isParent
  rw [parentId?_resolvedGraph nodesApart endsKnown] at isParent
  constructor
  · by_contra unknown
    rw [ids_resolvedGraph] at unknown
    rw [container?_eq_none_of_not_mem endsKnown unknown] at isParent
    contradiction
  · rw [container?] at isParent
    split at isParent
    next edge found =>
      obtain rfl := Option.some.inj isParent
      have member := List.mem_of_mem_filter (List.mem_of_find?_eq_some found)
      exact (endsKnown edge member).1
    next =>
      obtain ⟨node, found, declared⟩ := Option.bind_eq_some_iff.1 isParent
      exact parentsKnown node (List.mem_of_find?_eq_some found) parent declared

/-- Nodes are settled exactly when they declare known containers other than themselves. -/
theorem settled_iff
    {diagram : Diagram}
    {drawn : List Edge}
    (first : ∀ id, drawn.find? (·.target == id) = diagram.containments.find? (·.target == id)) :
    (∀ node ∈ diagram.nodes, Settled diagram.ids drawn node) ↔
      (∀ node ∈ diagram.nodes, ∀ parent, node.parentId = some parent → parent ∈ diagram.ids) ∧
      ∀ node ∈ diagram.nodes,
        (∀ edge ∈ diagram.containments, edge.target ≠ node.id) →
          node.parentId ≠ some node.id := by
  simp only [Settled, first, List.find?_eq_none, beq_iff_eq, ne_eq]
  exact forall₂_and

/-- The graph of a diagram is a forest exactly when no container is inside itself. -/
theorem checkForest_resolvedGraph
    {diagram : Diagram}
    (nodesApart : diagram.ids.Nodup)
    (endsKnown : ∀ edge ∈ diagram.edges, edge.source ∈ diagram.ids ∧ edge.target ∈ diagram.ids)
    (parentsKnown : ∀ node ∈ diagram.nodes, ∀ parent, node.parentId = some parent →
      parent ∈ diagram.ids)
    (graph : Graph) :
    checkForest diagram.resolvedGraph = .ok graph ↔
      Acyclic (StepsTo diagram.container?) ∧ diagram.resolvedGraph = graph := by
  rw [checkForest_eq_ok_iff (joined_resolvedGraph nodesApart endsKnown parentsKnown),
    parentId?_resolvedGraph nodesApart endsKnown]

/-- What a diagram satisfies that passes all checks but the last one. -/
structure Resolvable (diagram : Diagram) : Prop where
  /-- Every node has an id and a type. -/
  named : ∀ node ∈ diagram.nodes,
    Text.isBlankText node.id = false ∧ Text.isBlankText node.typeName = false
  /-- No two nodes have the same id. -/
  nodesApart : diagram.ids.Nodup
  /-- No two edges have the same id. -/
  edgesApart : (diagram.edges.map (·.id)).Nodup
  /-- Every edge joins nodes of the diagram. -/
  endsKnown : ∀ edge ∈ diagram.edges, edge.source ∈ diagram.ids ∧ edge.target ∈ diagram.ids
  /-- Every declared container is a node of the diagram. -/
  parentsKnown : ∀ node ∈ diagram.nodes, ∀ parent, node.parentId = some parent →
    parent ∈ diagram.ids
  /-- No containment edge is a loop. -/
  noLoop : ∀ edge ∈ diagram.containments, edge.source ≠ edge.target
  /-- All containment edges into one node have the same source. -/
  agreeing : Agreeing diagram.containments
  /-- A node that no containment edge enters does not declare itself as its container. -/
  noSelfParent : ∀ node ∈ diagram.nodes,
    (∀ edge ∈ diagram.containments, edge.target ≠ node.id) → node.parentId ≠ some node.id

theorem acceptable_iff
    {diagram : Diagram} :
    diagram.Acceptable ↔ diagram.Resolvable ∧ Acyclic (StepsTo diagram.container?) := by
  constructor
  · intro acceptable
    exact ⟨{ acceptable with }, acceptable.acyclic⟩
  · rintro ⟨resolvable, acyclic⟩
    exact { resolvable with acyclic }

/-- The graph on which the last check of a diagram is made, if the checks before it pass. -/
def resolution (diagram : Diagram) : Except Error Graph := do
  checkNodes [] diagram.nodes
  checkEdges diagram.ids [] diagram.edges
  let drawn ← firstContaining [] diagram.containments
  let containment ← containingEdges diagram.ids drawn diagram.nodes
  return { nodes := diagram.nodes, containment, dependency := diagram.dependencies }

theorem toGraph_eq
    (diagram : Diagram) :
    diagram.toGraph = diagram.resolution >>= checkForest := by
  simp only [toGraph, resolution, bind_assoc, pure_bind]
  rfl

theorem resolution_eq_ok_iff
    (diagram : Diagram)
    (graph : Graph) :
    diagram.resolution = .ok graph ↔ diagram.Resolvable ∧ diagram.resolvedGraph = graph := by
  have succeeds := firstContaining_succeeds_iff diagram.containments [] (by simp [Agreeing])
  -- Dropping repetitions keeps the first drawn edge into every node.
  have first : ∀ drawn, firstContaining [] diagram.containments = .ok drawn →
      ∀ id, drawn.find? (·.target == id) = diagram.containments.find? (·.target == id) :=
    fun drawn taken => find?_firstContaining taken
  simp only [resolution, check_bind_eq_ok_iff, checkNodes_eq_ok_iff, checkEdges_eq_ok_iff]
  simp only [bind_eq_ok_iff, containingEdges_eq_ok_iff]
  constructor
  · rintro ⟨⟨named, nodesApart, _⟩, ⟨endsKnown, edgesApart, _⟩, drawn, taken,
      _, ⟨settled, rfl⟩, same⟩
    obtain ⟨parentsKnown, noSelfParent⟩ := (settled_iff (first drawn taken)).1 settled
    obtain ⟨noLoop, agreeing⟩ := succeeds.1 ⟨drawn, taken⟩
    rw [resolvedEdge?_congr (first drawn taken)] at same
    exact ⟨⟨named, nodesApart, edgesApart, endsKnown, parentsKnown, noLoop, agreeing,
      noSelfParent⟩, Except.ok.inj same⟩
  · rintro ⟨resolvable, rfl⟩
    obtain ⟨drawn, taken⟩ := succeeds.2 ⟨resolvable.noLoop, resolvable.agreeing⟩
    have settled := (settled_iff (first drawn taken)).2
      ⟨resolvable.parentsKnown, resolvable.noSelfParent⟩
    refine ⟨⟨resolvable.named, resolvable.nodesApart, by simp⟩,
      ⟨resolvable.endsKnown, resolvable.edgesApart, by simp⟩, drawn, taken,
      _, ⟨settled, rfl⟩, ?_⟩
    rw [resolvedEdge?_congr (first drawn taken)]
    rfl

/-- A diagram is accepted exactly when it is acceptable, and gives its graph. -/
theorem toGraph_eq_ok_iff
    (diagram : Diagram)
    (graph : Graph) :
    diagram.toGraph = .ok graph ↔ diagram.Acceptable ∧ diagram.resolvedGraph = graph := by
  rw [toGraph_eq, bind_eq_ok_iff, acceptable_iff]
  simp only [resolution_eq_ok_iff]
  constructor
  · rintro ⟨_, ⟨resolvable, rfl⟩, passed⟩
    obtain ⟨acyclic, same⟩ := (checkForest_resolvedGraph resolvable.nodesApart
      resolvable.endsKnown resolvable.parentsKnown graph).1 passed
    exact ⟨⟨resolvable, acyclic⟩, same⟩
  · rintro ⟨⟨resolvable, acyclic⟩, rfl⟩
    exact ⟨_, ⟨resolvable, rfl⟩, (checkForest_resolvedGraph resolvable.nodesApart
      resolvable.endsKnown resolvable.parentsKnown _).2 ⟨acyclic, rfl⟩⟩

/-- The graph of an accepted diagram is a forest of its nodes. -/
theorem isForest_of_toGraph
    {diagram : Diagram}
    {graph : Graph}
    (resolved : diagram.toGraph = .ok graph) :
    graph.IsForest := by
  obtain ⟨acceptable, rfl⟩ := (toGraph_eq_ok_iff diagram graph).1 resolved
  have joined := joined_resolvedGraph acceptable.nodesApart acceptable.endsKnown
    acceptable.parentsKnown
  constructor
  case apart => exact acceptable.nodesApart
  case joined => exact joined
  case rooted =>
    refine rooted_of_checkForest joined ((checkForest_eq_ok_iff joined).2 ⟨?_, rfl⟩)
    rw [parentId?_resolvedGraph acceptable.nodesApart acceptable.endsKnown]
    exact acceptable.acyclic
  case dependenciesJoined =>
    intro edge member
    obtain ⟨drawn, drawnMember, rfl⟩ := List.mem_map.1 member
    exact acceptable.endsKnown drawn (List.mem_of_mem_filter drawnMember)

end Diagram

end CloudPlan
