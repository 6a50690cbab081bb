import CloudPlan.Proofs.Diagram.Acceptance

/-!
# Containment on edges

In an accepted graph a node is contained in what a containment edge leads from.  There is
at most one such node, and looking for the container finds it.
-/

namespace CloudPlan.Graph

/-- A containment edge leads from a container to a node. -/
def Holds (graph : Graph) (container id : String) : Prop :=
  ∃ edge ∈ graph.containment, edge.source = container ∧ edge.target = id

instance (graph : Graph) (container id : String) : Decidable (graph.Holds container id) :=
  inferInstanceAs (Decidable (∃ edge ∈ graph.containment, _))

/-- How many contents of a node are of a type, or are there at all if no type is given. -/
def countContents (graph : Graph) (id : String) (childType : Option String) : Nat :=
  graph.nodes.countP fun child =>
    graph.Holds id child.id ∧ (childType = none ∨ childType = some child.typeName)

variable {diagram : Diagram} {graph : Graph} (accepted : diagram.toGraph = .ok graph)

include accepted

/-- No two containment edges of an accepted graph enter the same node. -/
theorem targets_nodup :
    (graph.containment.map (·.target)).Nodup := by
  obtain ⟨acceptable, rfl⟩ := (Diagram.toGraph_eq_ok_iff diagram graph).1 accepted
  exact Diagram.targets_resolvedGraph_nodup acceptable.nodesApart

theorem parentId?_eq_some_iff
    {container id : String} :
    graph.parentId? id = some container ↔ graph.Holds container id := by
  simp only [parentId?_eq (targets_nodup accepted), Holds, Option.map_eq_some_iff,
    find?_name_eq_some_iff (targets_nodup accepted)]
  constructor
  · rintro ⟨edge, ⟨member, enters⟩, leaves⟩
    exact ⟨edge, member, leaves, enters⟩
  · rintro ⟨edge, member, leaves, enters⟩
    exact ⟨edge, ⟨member, enters⟩, leaves⟩

theorem node?_eq_some_iff
    {id : String}
    {node : Node} :
    graph.node? id = some node ↔ node ∈ graph.nodes ∧ node.id = id :=
  find?_name_eq_some_iff (Diagram.isForest_of_toGraph accepted).apart

/-- What holds a node is a node. -/
theorem exists_container
    {container id : String}
    (holds : graph.Holds container id) :
    ∃ parent ∈ graph.nodes, parent.id = container := by
  have isForest := Diagram.isForest_of_toGraph accepted
  have known := (isForest.joined id container ((parentId?_eq_some_iff accepted).2 holds)).2
  exact List.mem_map.1 known

theorem parent?_eq_some_iff
    {id : String}
    {parent : Node} :
    graph.parent? id = some parent ↔ parent ∈ graph.nodes ∧ graph.Holds parent.id id := by
  simp only [parent?, Option.bind_eq_some_iff, parentId?_eq_some_iff accepted,
    node?_eq_some_iff accepted]
  constructor
  · rintro ⟨_, holds, isNode, rfl⟩
    exact ⟨isNode, holds⟩
  · rintro ⟨isNode, holds⟩
    exact ⟨_, holds, isNode, rfl⟩

theorem parent?_eq_none_iff
    {id : String} :
    graph.parent? id = none ↔ ∀ container, ¬ graph.Holds container id := by
  rw [Option.eq_none_iff_forall_ne_some]
  constructor
  · intro parentless container holds
    obtain ⟨parent, isNode, rfl⟩ := exists_container accepted holds
    exact parentless parent ((parent?_eq_some_iff accepted).2 ⟨isNode, holds⟩)
  · intro nowhere parent isParent
    exact nowhere parent.id ((parent?_eq_some_iff accepted).1 isParent).2

/-- Nodes of one id are the same. -/
theorem node_unique
    {node other : Node}
    (isNode : node ∈ graph.nodes)
    (otherIsNode : other ∈ graph.nodes)
    (sameId : node.id = other.id) :
    node = other :=
  List.inj_on_of_nodup_map (Diagram.isForest_of_toGraph accepted).apart isNode otherIsNode sameId

/-- A node has one container at most. -/
theorem parent_unique
    {id : String}
    {parent other : Node}
    (isNode : parent ∈ graph.nodes)
    (holds : graph.Holds parent.id id)
    (otherIsNode : other ∈ graph.nodes)
    (otherHolds : graph.Holds other.id id) :
    parent = other := by
  have found := (parent?_eq_some_iff accepted).2 ⟨isNode, holds⟩
  have otherFound := (parent?_eq_some_iff accepted).2 ⟨otherIsNode, otherHolds⟩
  exact Option.some.inj (found.symm.trans otherFound)

/-- Contents are counted on edges. -/
theorem countP_children_eq_countContents
    (id : String)
    (childType : Option String) :
    ((graph.children id).countP fun child =>
      childType.all fun wanted => child.typeName == wanted) =
        graph.countContents id childType := by
  rw [children_eq_filter (Diagram.isForest_of_toGraph accepted).apart, List.countP_filter,
    countContents]
  apply List.countP_congr
  intro child _
  have held : (graph.parentId? child.id == some id) = true ↔ graph.Holds id child.id := by
    rw [beq_iff_eq, parentId?_eq_some_iff accepted]
  cases childType with
  | none => simp [held]
  | some wanted =>
      have sameType : (child.typeName == wanted) = true ↔ some wanted = some child.typeName := by
        rw [beq_iff_eq, Option.some_inj, eq_comm]
      rw [Bool.and_eq_true, held, Option.all_some, sameType]
      simp [and_comm]

end CloudPlan.Graph
