import CloudPlan.Proofs.Diagram.Holding

/-!
# How edges of a graph are named

The edges of an accepted diagram are named apart.  A node that no containment edge enters is given
an edge for the container that it declares, and this edge is named after the node.  No two of the
given edges share a name, but nothing keeps an edge from being drawn under the name of a given one.
So the edges of a graph are named apart exactly when no drawn edge that is kept has such a name.
-/

namespace CloudPlan

/-- All edges of a graph: those of containment, and the dependencies. -/
def Graph.edges (graph : Graph) : List Edge :=
  graph.containment ++ graph.dependency

namespace Diagram

variable {diagram : Diagram} {graph : Graph} {edge drawn other : Edge} {node : Node}
  {parent : String}

/-- A drawn edge becomes an edge of the graph: it is a dependency, or the first containment edge
into its node. -/
structure Keeps (diagram : Diagram) (edge : Edge) : Prop where
  /-- The edge is drawn. -/
  drawn : edge ∈ diagram.edges
  /-- It is the first of its kind if it is a containment edge. -/
  first : edge.kind = .containment →
    diagram.containments.find? (·.target == edge.target) = some edge

/-- A node is contained in what it declares, because no containment edge enters it. -/
structure Relies (diagram : Diagram) (node : Node) (parent : String) : Prop where
  /-- The node is drawn. -/
  drawn : node ∈ diagram.nodes
  /-- It declares the container. -/
  declares : node.parentId = some parent
  /-- No containment edge enters it. -/
  notEntered : ∀ edge ∈ diagram.containments, edge.target ≠ node.id

/-- A drawn edge as it stands in the graph: a dependency has its flavour there. -/
def placed (edge : Edge) : Edge :=
  match edge.kind with
  | .containment => edge
  | .dependency => { edge with dependencyType := some edge.flavour }

theorem placed_of_containment
    (contains : edge.kind = .containment) :
    placed edge = edge := by
  simp [placed, contains]

theorem placed_of_dependency
    (depends : edge.kind = .dependency) :
    placed edge = { edge with dependencyType := some edge.flavour } := by
  simp [placed, depends]

@[simp] theorem id_placed (edge : Edge) :
    (placed edge).id = edge.id := by
  unfold placed
  split <;> rfl

@[simp] theorem kind_placed (edge : Edge) :
    (placed edge).kind = edge.kind := by
  unfold placed
  split <;> rfl

@[simp] theorem target_placed (edge : Edge) :
    (placed edge).target = edge.target := by
  unfold placed
  split <;> rfl

/-! ## Where edges come from -/

/-- Edges of containment are kept, or given to nodes that rely on what they declare. -/
theorem mem_containment_iff
    (acceptable : diagram.Acceptable) :
    edge ∈ diagram.resolvedGraph.containment ↔
      (diagram.Keeps edge ∧ edge.kind = .containment) ∨
        ∃ node parent, diagram.Relies node parent ∧ declaredEdge node parent = edge := by
  simp only [resolvedGraph, List.mem_filterMap, resolvedEdge?, Option.or_eq_some_iff,
    List.find?_eq_none, Option.map_eq_some_iff]
  constructor
  · rintro ⟨node, member, found | ⟨noEdge, parent, declares, rfl⟩⟩
    · have isContainment := List.mem_filter.1 (List.mem_of_find?_eq_some found)
      have enters : edge.target = node.id := by simpa using List.find?_some found
      exact Or.inl ⟨⟨isContainment.1, fun _ => enters.symm ▸ found⟩,
        by simpa using isContainment.2⟩
    · exact Or.inr ⟨node, parent, ⟨member, declares, by simpa using noEdge⟩, rfl⟩
  · rintro (⟨keeps, contains⟩ | ⟨node, parent, relies, rfl⟩)
    · obtain ⟨node, member, entered⟩ :=
        List.mem_map.1 (acceptable.endsKnown edge keeps.drawn).2
      refine ⟨node, member, Or.inl ?_⟩
      rw [entered]
      exact keeps.first contains
    · exact ⟨node, relies.drawn, Or.inr ⟨by simpa using relies.notEntered, parent,
        relies.declares, rfl⟩⟩

/-- Dependencies are drawn, and each of them is kept. -/
theorem mem_dependencies_iff :
    edge ∈ diagram.dependencies ↔
      ∃ drawn, diagram.Keeps drawn ∧ drawn.kind = .dependency ∧ placed drawn = edge := by
  simp only [dependencies, List.mem_map, List.mem_filter, beq_iff_eq]
  constructor
  · rintro ⟨drawn, ⟨member, depends⟩, rfl⟩
    exact ⟨drawn, ⟨member, fun contains => by simp [depends] at contains⟩, depends,
      placed_of_dependency depends⟩
  · rintro ⟨drawn, keeps, depends, rfl⟩
    exact ⟨drawn, ⟨keeps.drawn, depends⟩, (placed_of_dependency depends).symm⟩

/-- The edges of the graph are the kept ones and the given ones. -/
theorem mem_edges_iff
    (acceptable : diagram.Acceptable) :
    edge ∈ diagram.resolvedGraph.edges ↔
      (∃ drawn, diagram.Keeps drawn ∧ placed drawn = edge) ∨
        ∃ node parent, diagram.Relies node parent ∧ declaredEdge node parent = edge := by
  have split : edge ∈ diagram.resolvedGraph.edges ↔
      edge ∈ diagram.resolvedGraph.containment ∨ edge ∈ diagram.dependencies :=
    List.mem_append
  rw [split, mem_containment_iff acceptable, mem_dependencies_iff]
  constructor
  · rintro ((⟨keeps, contains⟩ | given) | ⟨drawn, keeps, -, isPlaced⟩)
    · exact Or.inl ⟨edge, keeps, placed_of_containment contains⟩
    · exact Or.inr given
    · exact Or.inl ⟨drawn, keeps, isPlaced⟩
  · rintro (⟨drawn, keeps, rfl⟩ | given)
    · cases kind : drawn.kind with
      | containment =>
          rw [placed_of_containment kind]
          exact Or.inl (Or.inl ⟨keeps, kind⟩)
      | dependency => exact Or.inr ⟨drawn, keeps, kind, rfl⟩
    · exact Or.inl (Or.inr given)

/-- No kept edge becomes a given one: a containment edge enters another node. -/
theorem Keeps.placed_ne_declaredEdge
    (keeps : diagram.Keeps drawn)
    (relies : diagram.Relies node parent) :
    placed drawn ≠ declaredEdge node parent := by
  intro same
  have contains : drawn.kind = .containment := by
    rw [← kind_placed, same]
    rfl
  have enters : drawn.target = node.id := by
    rw [← target_placed, same]
    rfl
  exact relies.notEntered drawn (List.mem_filter.2 ⟨keeps.drawn, beq_iff_eq.2 contains⟩) enters

/-! ## Names -/

/-- No edge of the graph stands there twice: containment edges enter different nodes, and
dependencies are named apart. -/
theorem nodup_edges
    (resolved : diagram.toGraph = .ok graph) :
    graph.edges.Nodup := by
  have containmentApart := List.Nodup.of_map _ (Graph.targets_nodup resolved)
  obtain ⟨acceptable, rfl⟩ := (toGraph_eq_ok_iff diagram graph).1 resolved
  have dependencyApart : diagram.dependencies.Nodup := by
    apply List.Nodup.of_map (·.id)
    rw [dependencies, List.map_map]
    exact acceptable.edgesApart.sublist (List.filter_sublist.map _)
  refine List.Nodup.append containmentApart dependencyApart ?_
  intro edge contained depends
  have contains := (acceptable.resolves.containers edge contained).1
  obtain ⟨drawn, -, isDependency, rfl⟩ := mem_dependencies_iff.1 depends
  rw [kind_placed, isDependency] at contains
  cases contains

/-- Kept edges of one name are the same. -/
theorem Keeps.eq_of_id_eq
    (acceptable : diagram.Acceptable)
    (keeps : diagram.Keeps edge)
    (otherKeeps : diagram.Keeps other)
    (sameId : edge.id = other.id) :
    edge = other :=
  List.inj_on_of_nodup_map acceptable.edgesApart keeps.drawn otherKeeps.drawn sameId

/-- Given edges of one name are the same: they belong to one node. -/
theorem Relies.declaredEdge_eq
    {otherNode : Node}
    {otherParent : String}
    (acceptable : diagram.Acceptable)
    (relies : diagram.Relies node parent)
    (otherRelies : diagram.Relies otherNode otherParent)
    (sameId : node.id ++ ":parent" = otherNode.id ++ ":parent") :
    declaredEdge node parent = declaredEdge otherNode otherParent := by
  have sameNode : node = otherNode :=
    List.inj_on_of_nodup_map acceptable.nodesApart relies.drawn otherRelies.drawn
      (String.append_left_inj _ |>.1 sameId)
  subst sameNode
  have sameParent : parent = otherParent :=
    Option.some.inj (relies.declares.symm.trans otherRelies.declares)
  rw [sameParent]

/-- The edges of the graph of an accepted diagram are named apart exactly when no edge that is kept
was drawn under the name of a given one. -/
theorem edge_ids_nodup_iff
    (resolved : diagram.toGraph = .ok graph) :
    (graph.edges.map (·.id)).Nodup ↔
      ∀ edge, diagram.Keeps edge → ∀ node parent, diagram.Relies node parent →
        edge.id ≠ node.id ++ ":parent" := by
  have noRepetition := nodup_edges resolved
  obtain ⟨acceptable, rfl⟩ := (toGraph_eq_ok_iff diagram graph).1 resolved
  constructor
  · intro apart edge keeps node parent relies sameId
    have isKept := (mem_edges_iff acceptable).2 (Or.inl ⟨edge, keeps, rfl⟩)
    have isGiven := (mem_edges_iff acceptable).2 (Or.inr ⟨node, parent, relies, rfl⟩)
    have same := List.inj_on_of_nodup_map apart isKept isGiven ((id_placed edge).trans sameId)
    exact keeps.placed_ne_declaredEdge relies same
  · intro free
    refine List.Nodup.map_on ?_ noRepetition
    intro edge member other otherMember sameId
    have origin := (mem_edges_iff acceptable).1 member
    have otherOrigin := (mem_edges_iff acceptable).1 otherMember
    obtain ⟨drawn, keeps, rfl⟩ | ⟨node, parent, relies, rfl⟩ := origin
    · rw [id_placed] at sameId
      obtain ⟨otherDrawn, otherKeeps, rfl⟩ | ⟨node, parent, relies, rfl⟩ := otherOrigin
      · rw [id_placed] at sameId
        rw [keeps.eq_of_id_eq acceptable otherKeeps sameId]
      · exact absurd sameId (free drawn keeps node parent relies)
    · obtain ⟨drawn, keeps, rfl⟩ | ⟨otherNode, otherParent, otherRelies, rfl⟩ := otherOrigin
      · rw [id_placed] at sameId
        exact absurd sameId.symm (free drawn keeps node parent relies)
      · exact relies.declaredEdge_eq acceptable otherRelies sameId

/-- The edges of the network are named apart: the server relies on what it declares, and nothing
was drawn under the name of the edge that it is given. -/
theorem edge_ids_nodup_network :
    ∃ graph, network.toGraph = .ok graph ∧
      graph.edges.map (·.id) = ["web:parent", "uses"] ∧
      (graph.edges.map (·.id)).Nodup := by
  have resolved : network.toGraph = .ok network.resolvedGraph := rfl
  refine ⟨_, resolved, rfl, (edge_ids_nodup_iff resolved).2 ?_⟩
  intro edge keeps node parent relies
  obtain rfl := List.mem_singleton.1 keeps.drawn
  have isWeb : node.id = "web" := by
    have isNode := relies.drawn
    have declares := relies.declares
    simp only [network, List.mem_cons, List.not_mem_nil, or_false] at isNode
    rcases isNode with rfl | rfl | rfl
    · cases declares
    · rfl
    · cases declares
  rw [isWeb]
  decide

/-- A subnet in a network, that also depends on it through an edge of an unlucky name. -/
def namesake : Diagram where
  nodes := [
    { id := "v1", typeName := "VPC" },
    { id := "s1", typeName := "Subnet", parentId := some "v1" }]
  edges := [{ id := "s1:parent", source := "s1", target := "v1" }]

/-- The drawn dependency and the edge that the subnet is given have one name. -/
theorem not_nodup_edge_ids_namesake :
    ∃ graph, namesake.toGraph = .ok graph ∧ ¬ (graph.edges.map (·.id)).Nodup :=
  ⟨_, rfl, by decide⟩

end Diagram

end CloudPlan
