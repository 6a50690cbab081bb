import CloudPlan.Proofs.Diagram.Resolution

/-!
# Which diagrams are accepted

A diagram is accepted exactly when its nodes and edges are named apart, its
references lead somewhere and its containment is a forest.  The graph then has the
nodes of the diagram, one containment edge for each contained node, and the
dependency edges with their flavours.  None of this depends on the order in which
nodes and edges are listed.
-/

namespace CloudPlan.Diagram

variable {diagram other : Diagram}

/-! ## Containers without order -/

/-- A container is the source of any containment edge into the node, or else declared by
the node. -/
theorem container?_eq_some_iff
    (nodesApart : diagram.ids.Nodup)
    (agreeing : Agreeing diagram.containments)
    (id parent : String) :
    diagram.container? id = some parent ↔
      (∃ edge ∈ diagram.containments, edge.target = id ∧ edge.source = parent) ∨
      (∀ edge ∈ diagram.containments, edge.target ≠ id) ∧
        ∃ node ∈ diagram.nodes, node.id = id ∧ node.parentId = some parent := by
  rw [container?]
  split
  next edge found =>
    have member := List.mem_of_find?_eq_some found
    have enters : edge.target = id := by simpa using List.find?_some found
    constructor
    · intro equal
      exact Or.inl ⟨edge, member, enters, Option.some.inj equal⟩
    · rintro (⟨drawn, drawnMember, drawnEnters, rfl⟩ | ⟨noEdge, _⟩)
      · rw [agreeing edge member drawn drawnMember (enters.trans drawnEnters.symm)]
      · exact absurd enters (noEdge edge member)
  next absent =>
    have noEdge : ∀ edge ∈ diagram.containments, edge.target ≠ id := by
      simpa using absent
    constructor
    · intro declared
      obtain ⟨node, found, declares⟩ := Option.bind_eq_some_iff.1 declared
      obtain ⟨member, sameId⟩ := (find?_name_eq_some_iff nodesApart).1 found
      exact Or.inr ⟨noEdge, node, member, sameId, declares⟩
    · rintro (⟨edge, member, enters, _⟩ | ⟨_, node, member, sameId, declares⟩)
      · exact absurd enters (noEdge edge member)
      · rw [(find?_name_eq_some_iff nodesApart).2 ⟨member, sameId⟩]
        exact declares

/-- Listing nodes in another order lists their ids in another order. -/
theorem ids_of_perm (nodes : other.nodes.Perm diagram.nodes) :
    other.ids.Perm diagram.ids := by
  unfold ids
  exact nodes.map _

/-- Listing edges in another order lists the containment edges in another order. -/
theorem containments_of_perm (edges : other.edges.Perm diagram.edges) :
    other.containments.Perm diagram.containments := by
  unfold containments
  exact edges.filter _

/-- Listing nodes and edges in another order does not change containers. -/
theorem container?_of_perm
    (nodes : other.nodes.Perm diagram.nodes)
    (edges : other.edges.Perm diagram.edges)
    (nodesApart : diagram.ids.Nodup)
    (agreeing : Agreeing diagram.containments) :
    other.container? = diagram.container? := by
  have containments := containments_of_perm edges
  have otherApart : other.ids.Nodup := (ids_of_perm nodes).nodup_iff.2 nodesApart
  have otherAgreeing : Agreeing other.containments := agreeing.of_subset containments.subset
  funext id
  apply Option.ext
  intro parent
  rw [container?_eq_some_iff otherApart otherAgreeing,
    container?_eq_some_iff nodesApart agreeing]
  simp only [containments.mem_iff, nodes.mem_iff]

/-- Listing nodes and edges in another order keeps a diagram acceptable. -/
theorem Acceptable.of_perm
    (nodes : other.nodes.Perm diagram.nodes)
    (edges : other.edges.Perm diagram.edges)
    (acceptable : diagram.Acceptable) :
    other.Acceptable := by
  have containments := containments_of_perm edges
  have ids := ids_of_perm nodes
  constructor
  case named => simpa only [nodes.mem_iff] using acceptable.named
  case nodesApart => exact ids.nodup_iff.2 acceptable.nodesApart
  case edgesApart => exact (edges.map _).nodup_iff.2 acceptable.edgesApart
  case endsKnown => simpa only [edges.mem_iff, ids.mem_iff] using acceptable.endsKnown
  case parentsKnown => simpa only [nodes.mem_iff, ids.mem_iff] using acceptable.parentsKnown
  case noLoop => simpa only [containments.mem_iff] using acceptable.noLoop
  case agreeing => exact acceptable.agreeing.of_subset containments.subset
  case noSelfParent =>
    simpa only [nodes.mem_iff, containments.mem_iff] using acceptable.noSelfParent
  case acyclic =>
    rw [container?_of_perm nodes edges acceptable.nodesApart acceptable.agreeing]
    exact acceptable.acyclic

/-! ## The graph of an accepted diagram -/

/-- What the graph of an accepted diagram holds. -/
structure Resolves (diagram : Diagram) (graph : Graph) : Prop where
  /-- The nodes, in document order. -/
  nodes : graph.nodes = diagram.nodes
  /-- Nodes are contained in their containers. -/
  parents : ∀ id, graph.parentId? id = diagram.container? id
  /-- Containment edges come from containers. -/
  containers : ∀ edge ∈ graph.containment,
    edge.kind = .containment ∧ diagram.container? edge.target = some edge.source
  /-- There is one containment edge for each contained node, in document order. -/
  contained : graph.containment.map (·.target) =
    (diagram.nodes.filter fun node => (diagram.container? node.id).isSome).map (·.id)
  /-- The contents of a node, in document order. -/
  children : ∀ id, graph.children id =
    diagram.nodes.filter fun node => diagram.container? node.id == some id
  /-- The nodes without a container, in document order. -/
  roots : graph.roots =
    diagram.nodes.filter fun node => (diagram.container? node.id).isNone
  /-- The dependency edges with their flavours, in document order. -/
  dependency : graph.dependency = diagram.dependencies

/-- The graph of an acceptable diagram resolves it. -/
theorem Acceptable.resolves
    (acceptable : diagram.Acceptable) :
    diagram.Resolves diagram.resolvedGraph := by
  have parents := parentId?_resolvedGraph acceptable.nodesApart acceptable.endsKnown
  have source : ∀ node ∈ diagram.nodes,
      (resolvedEdge? diagram.containments node).map (·.source) = diagram.container? node.id :=
    fun node member => container?_of_find?_node
      ((find?_name_eq_some_iff acceptable.nodesApart).2 ⟨member, rfl⟩)
  constructor
  case nodes => rfl
  case parents => exact congrFun parents
  case containers =>
    intro edge member
    obtain ⟨node, nodeMember, resolved⟩ := List.mem_filterMap.1 member
    constructor
    · exact kind_of_resolvedEdge? (fun drawn drawnMember =>
        by simpa using (List.mem_filter.1 drawnMember).2) resolved
    · rw [target_of_resolvedEdge? resolved, ← source node nodeMember, resolved]
      rfl
  case contained =>
    rw [resolvedGraph, map_target_resolvedEdges]
    congr 1
    apply List.filter_congr
    intro node member
    rw [← source node member, Option.isSome_map]
  case children =>
    intro id
    have apart : diagram.resolvedGraph.ids.Nodup := acceptable.nodesApart
    rw [Graph.children_eq_filter apart, parents]
    rfl
  case roots =>
    rw [Graph.roots, parents]
    rfl
  case dependency => rfl

/-- A diagram is accepted exactly when it is acceptable, its graph resolves it, and the
order in which nodes and edges are listed changes neither acceptance nor containers. -/
theorem accepts_exactly_forests
    (diagram : Diagram) :
    ((∃ graph, diagram.toGraph = .ok graph) ↔ diagram.Acceptable) ∧
    (∀ graph, diagram.toGraph = .ok graph → diagram.Resolves graph) ∧
    ∀ other : Diagram,
      other.nodes.Perm diagram.nodes → other.edges.Perm diagram.edges →
      ((∃ graph, other.toGraph = .ok graph) ↔ ∃ graph, diagram.toGraph = .ok graph) ∧
      ∀ graph otherGraph, diagram.toGraph = .ok graph → other.toGraph = .ok otherGraph →
        ∀ id, otherGraph.parentId? id = graph.parentId? id := by
  have accepted (diagram : Diagram) :
      (∃ graph, diagram.toGraph = .ok graph) ↔ diagram.Acceptable := by
    simp only [toGraph_eq_ok_iff, exists_and_left, exists_eq', and_true]
  have resolves (diagram : Diagram) (graph : Graph) (resolved : diagram.toGraph = .ok graph) :
      diagram.Resolves graph := by
    obtain ⟨acceptable, rfl⟩ := (toGraph_eq_ok_iff diagram graph).1 resolved
    exact acceptable.resolves
  refine ⟨accepted diagram, resolves diagram, ?_⟩
  intro other nodes edges
  constructor
  · rw [accepted, accepted]
    exact ⟨Acceptable.of_perm nodes.symm edges.symm, Acceptable.of_perm nodes edges⟩
  · intro graph otherGraph resolved otherResolved id
    obtain ⟨acceptable, _⟩ := (toGraph_eq_ok_iff diagram graph).1 resolved
    rw [(resolves other otherGraph otherResolved).parents,
      (resolves diagram graph resolved).parents,
      container?_of_perm nodes edges acceptable.nodesApart acceptable.agreeing]

/-- A server in a network, and a database that it needs. -/
def network : Diagram where
  nodes := [
    { id := "net", typeName := "Network" },
    { id := "web", typeName := "Server", parentId := some "net" },
    { id := "db", typeName := "Server" }]
  edges := [{ id := "uses", source := "web", target := "db" }]

/-- Listed backwards, the network still contains the server. -/
theorem accepts_reversed_network :
    network.Acceptable ∧
    ∃ graph, ({ network with nodes := network.nodes.reverse } : Diagram).toGraph = .ok graph ∧
      graph.parentId? "web" = some "net" := by
  obtain ⟨accepted, _, reordered⟩ := accepts_exactly_forests network
  have resolves : ∃ graph, network.toGraph = .ok graph ∧ graph.parentId? "web" = some "net" :=
    ⟨_, rfl, rfl⟩
  obtain ⟨graph, resolved, isParent⟩ := resolves
  obtain ⟨sameAcceptance, sameParents⟩ := reordered { network with nodes := network.nodes.reverse }
    (List.reverse_perm _) (List.Perm.refl _)
  obtain ⟨otherGraph, otherResolved⟩ := sameAcceptance.2 ⟨graph, resolved⟩
  refine ⟨accepted.1 ⟨graph, resolved⟩, otherGraph, otherResolved, ?_⟩
  rw [sameParents graph otherGraph resolved otherResolved]
  exact isParent

end CloudPlan.Diagram
