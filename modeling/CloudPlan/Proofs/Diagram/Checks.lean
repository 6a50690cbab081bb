import CloudPlan.Diagram.Resolution
import CloudPlan.Proofs.Outcome

/-!
# What the first passes accept

Nodes pass when they have ids and types and are named apart.  Edges pass when they
are named apart and join known nodes.
-/

namespace CloudPlan.Diagram

/-- The names of a list are new and given once when its first name is new and the
others are new beside it. -/
private theorem apart_cons_iff
    {α : Type}
    (name : α → String)
    {first : α}
    {rest : List α}
    {seen : List String}
    (unseen : name first ∉ seen) :
    (((first :: rest).map name).Nodup ∧ ∀ other ∈ first :: rest, name other ∉ seen) ↔
      (rest.map name).Nodup ∧ ∀ other ∈ rest, name other ∉ name first :: seen := by
  rw [List.forall_mem_cons]
  simp only [List.map_cons, List.nodup_cons, List.mem_cons, List.mem_map, not_or, not_exists,
    not_and]
  constructor
  · rintro ⟨⟨different, apart⟩, _, others⟩
    exact ⟨apart, fun other member => ⟨different other member, others other member⟩⟩
  · rintro ⟨apart, others⟩
    exact ⟨⟨fun other member => (others other member).1, apart⟩, unseen,
      fun other member => (others other member).2⟩

/-- Nodes pass exactly when each has an id and a type, and no id is given twice. -/
theorem checkNodes_eq_ok_iff
    (nodes : List Node)
    (seen : List String) :
    checkNodes seen nodes = .ok () ↔
      (∀ node ∈ nodes,
        Text.isBlankText node.id = false ∧ Text.isBlankText node.typeName = false) ∧
      (nodes.map (·.id)).Nodup ∧
      ∀ node ∈ nodes, node.id ∉ seen := by
  induction nodes generalizing seen with
  | nil => simp [checkNodes]
  | cons node rest inductionHypothesis =>
      rw [checkNodes]
      split_ifs with blankId blankType known
      · simp [blankId]
      · simp [blankType]
      · simp [known]
      · rw [inductionHypothesis, apart_cons_iff (fun node : Node => node.id) known,
          List.forall_mem_cons]
        simp only [Bool.not_eq_true] at blankId blankType
        simp only [blankId, blankType, true_and]

/-- Edges pass exactly when they join known nodes and no id is given twice. -/
theorem checkEdges_eq_ok_iff
    (known : List String)
    (edges : List Edge)
    (seen : List String) :
    checkEdges known seen edges = .ok () ↔
      (∀ edge ∈ edges, edge.source ∈ known ∧ edge.target ∈ known) ∧
      (edges.map (·.id)).Nodup ∧
      ∀ edge ∈ edges, edge.id ∉ seen := by
  induction edges generalizing seen with
  | nil => simp [checkEdges]
  | cons edge rest inductionHypothesis =>
      rw [checkEdges]
      split_ifs with repeated knownSource knownTarget
      · simp [repeated]
      · rw [inductionHypothesis, apart_cons_iff (fun edge : Edge => edge.id) repeated,
          List.forall_mem_cons]
        simp only [knownSource, knownTarget, true_and]
      · simp [knownTarget]
      · simp [knownSource]

end CloudPlan.Diagram
