import CloudPlan.Diagram.Graph
import CloudPlan.Proofs.Lookup

/-!
# Containers and contents

The dictionaries of a graph answer like its lists.  Where no two edges enter the same node, a
container is the source of the edge into a node, and what the pass over the nodes has put under
an id are the nodes with that container, in document order.
-/

namespace CloudPlan.Graph

variable {graph : Graph}

/-- The ids of the nodes, in document order. -/
def ids (graph : Graph) : List String :=
  graph.nodes.map (·.id)

/-! ## Containers -/

/-- Under a node stands the source of the edge into it, or what stood there before the edges. -/
theorem get?_foldl_parents
    {edges : List Edge}
    (apart : (edges.map (·.target)).Nodup)
    (parents : Dictionary String)
    (id : String) :
    (edges.foldl (fun parents edge => parents.insert edge.target edge.source) parents).get? id =
      ((edges.find? (·.target == id)).map (·.source)).or (parents.get? id) := by
  induction edges generalizing parents with
  | nil => rfl
  | cons edge rest inductionHypothesis =>
      obtain ⟨entersOther, restApart⟩ := List.nodup_cons.1 apart
      rw [List.foldl_cons, inductionHypothesis restApart, Dictionary.get?_insert]
      by_cases enters : id = edge.target
      · subst enters
        have notLater : rest.find? (·.target == edge.target) = none :=
          find?_name_eq_none_iff.2 entersOther
        rw [notLater, List.find?_cons_of_pos (by simp), if_pos rfl]
        rfl
      · rw [if_neg enters, List.find?_cons_of_neg (by simpa using Ne.symm enters)]

theorem parentId?_eq
    (apart : (graph.containment.map (·.target)).Nodup)
    (id : String) :
    graph.parentId? id = (graph.containment.find? (·.target == id)).map (·.source) := by
  rw [parentId?, parents, get?_foldl_parents apart, Dictionary.get?_empty, Option.or_none]

/-! ## Contents -/

/-- One node more stands behind the contents of its container, and of no other. -/
theorem getD_get?_addContent
    (parents : Dictionary String)
    (contents : Dictionary (List String))
    (node : Node)
    (id : String) :
    ((addContent parents contents node).get? id).getD [] =
      (contents.get? id).getD [] ++
        if parents.get? node.id = some id then [node.id] else [] := by
  unfold addContent
  cases parents.get? node.id with
  | none => simp
  | some parent =>
      dsimp only
      rw [Dictionary.get?_insert]
      by_cases same : id = parent
      · simp [same]
      · simp [same, Ne.symm same]

/-- Nodes are put behind the contents of their containers one after the other. -/
theorem getD_get?_foldl_addContent
    (parents : Dictionary String)
    (nodes : List Node)
    (contents : Dictionary (List String))
    (id : String) :
    ((nodes.foldl (addContent parents) contents).get? id).getD [] =
      (contents.get? id).getD [] ++
        (nodes.filter fun node => parents.get? node.id == some id).map (·.id) := by
  induction nodes generalizing contents with
  | nil => simp
  | cons node rest inductionHypothesis =>
      rw [List.foldl_cons, inductionHypothesis, getD_get?_addContent, List.append_assoc,
        List.filter_cons]
      by_cases isContent : parents.get? node.id = some id
      · simp [isContent]
      · simp [isContent]

/-- Under an id stand the nodes with this container, in document order. -/
theorem getD_get?_contents (id : String) :
    (graph.contents.get? id).getD [] =
      (graph.nodes.filter fun node => graph.parentId? node.id == some id).map (·.id) :=
  getD_get?_foldl_addContent graph.parents graph.nodes .empty id

/-- The contents of a node are named like the nodes that it contains. -/
theorem map_id_children (id : String) :
    (graph.children id).map (·.id) =
      (graph.nodes.filter fun node => graph.parentId? node.id == some id).map (·.id) := by
  rw [children, List.map_filterMap, getD_get?_contents]
  have found : ∀ other ∈
      (graph.nodes.filter fun node => graph.parentId? node.id == some id).map (·.id),
      (graph.node? other).map (·.id) = some other := by
    intro other member
    obtain ⟨node, isContent, rfl⟩ := List.mem_map.1 member
    cases isFound : graph.node? node.id with
    | none =>
        exact absurd (List.mem_map_of_mem (List.mem_of_mem_filter isContent))
          (find?_name_eq_none_iff.1 isFound)
    | some first => exact congrArg some (by simpa using List.find?_some isFound)
  rw [List.filterMap_congr found, List.filterMap_some]

/-- Where nodes are named apart, nothing is contained twice. -/
theorem nodup_map_id_children
    (apart : graph.ids.Nodup)
    (id : String) :
    ((graph.children id).map (·.id)).Nodup := by
  rw [map_id_children]
  exact apart.sublist (List.filter_sublist.map _)

/-- Where nodes are named apart, the contents of a node are the nodes that it contains. -/
theorem children_eq_filter
    (apart : graph.ids.Nodup)
    (id : String) :
    graph.children id = graph.nodes.filter fun node => graph.parentId? node.id == some id := by
  rw [children, getD_get?_contents, List.filterMap_map]
  have found : ∀ node ∈ graph.nodes.filter fun node => graph.parentId? node.id == some id,
      (graph.node? ∘ Node.id) node = some node := fun node isContent =>
    (find?_name_eq_some_iff apart).2 ⟨List.mem_of_mem_filter isContent, rfl⟩
  rw [List.filterMap_congr found, List.filterMap_some]

end CloudPlan.Graph
