import CloudPlan.Diagram.Resolution
import CloudPlan.Proofs.Outcome

/-!
# How containment is resolved

Drawn containment edges are taken together when none is a loop and all edges into
one node leave the same node.  A node then ends up below the source of the first
drawn edge into it, or else below the container that it declares.
-/

namespace CloudPlan.Diagram

/-! ## Drawn edges -/

/-- Edges into one node all leave the same node. -/
def Agreeing (edges : List Edge) : Prop :=
  ∀ first ∈ edges, ∀ second ∈ edges, first.target = second.target →
    first.source = second.source

namespace Agreeing

/-- Some of the edges of an agreeing list agree. -/
theorem of_subset
    {edges more : List Edge}
    (agreeing : Agreeing more)
    (subset : edges ⊆ more) :
    Agreeing edges :=
  fun first firstMember second secondMember =>
    agreeing first (subset firstMember) second (subset secondMember)

/-- An edge that joins the same nodes as one of an agreeing list may be added. -/
theorem insert
    {chosen rest : List Edge}
    {first edge : Edge}
    (agreeing : Agreeing (chosen ++ rest))
    (member : first ∈ chosen)
    (sameTarget : first.target = edge.target)
    (sameSource : first.source = edge.source) :
    Agreeing (chosen ++ edge :: rest) := by
  have firstMember : first ∈ chosen ++ rest := List.mem_append_left rest member
  intro left leftMember right rightMember equal
  rw [List.mem_append, List.mem_cons, or_left_comm, ← List.mem_append] at leftMember rightMember
  rcases leftMember with rfl | leftMember <;> rcases rightMember with rfl | rightMember
  · rfl
  · exact sameSource.symm.trans
      (agreeing first firstMember right rightMember (sameTarget.trans equal))
  · exact (agreeing left leftMember first firstMember (equal.trans sameTarget.symm)).trans
      sameSource
  · exact agreeing left leftMember right rightMember equal

/-- An edge into a node that no edge of an agreeing list enters may be added. -/
theorem concat
    {chosen : List Edge}
    {edge : Edge}
    (agreeing : Agreeing chosen)
    (new : chosen.find? (·.target == edge.target) = none) :
    Agreeing (chosen ++ [edge]) := by
  have different : ∀ other ∈ chosen, other.target ≠ edge.target := by
    simpa using new
  intro left leftMember right rightMember equal
  rw [List.mem_append, List.mem_singleton] at leftMember rightMember
  rcases leftMember with leftMember | rfl <;> rcases rightMember with rightMember | rfl
  · exact agreeing left leftMember right rightMember equal
  · exact absurd equal (different left leftMember)
  · exact absurd equal.symm (different right rightMember)
  · rfl

end Agreeing

/-- The edge that is found for a node enters it and is one of the list. -/
private theorem found_edge
    {edges : List Edge}
    {node : String}
    {edge : Edge}
    (found : edges.find? (·.target == node) = some edge) :
    edge ∈ edges ∧ edge.target = node :=
  ⟨List.mem_of_find?_eq_some found, by simpa using List.find?_some found⟩

/-- Edges are taken together exactly when none is a loop and all agree. -/
theorem firstContaining_succeeds_iff
    (edges chosen : List Edge)
    (agreeing : Agreeing chosen) :
    (∃ drawn, firstContaining chosen edges = .ok drawn) ↔
      (∀ edge ∈ edges, edge.source ≠ edge.target) ∧ Agreeing (chosen ++ edges) := by
  induction edges generalizing chosen with
  | nil => simpa [firstContaining] using agreeing
  | cons edge rest inductionHypothesis =>
      rw [firstContaining, List.forall_mem_cons]
      split_ifs with loop
      · simp [loop]
      · cases found : chosen.find? (·.target == edge.target) with
        | none =>
            rw [inductionHypothesis _ (agreeing.concat found), List.append_assoc,
              List.singleton_append]
            simp only [ne_eq, loop, not_false_eq_true, true_and]
        | some first =>
            obtain ⟨member, sameTarget⟩ := found_edge found
            simp only
            split_ifs with sameSource
            · rw [inductionHypothesis chosen agreeing]
              have added : Agreeing (chosen ++ rest) ↔ Agreeing (chosen ++ edge :: rest) :=
                ⟨fun without => without.insert member sameTarget sameSource,
                  fun agree => agree.of_subset (by simp)⟩
              simp only [added, ne_eq, loop, not_false_eq_true, true_and]
            · have disagree : ¬ Agreeing (chosen ++ edge :: rest) := by
                intro agree
                exact sameSource (agree first (by simp [member]) edge (by simp) sameTarget)
              simp [disagree]

/-- The edge that is taken for a node is the first one into it. -/
theorem find?_firstContaining
    {edges chosen drawn : List Edge}
    (taken : firstContaining chosen edges = .ok drawn)
    (node : String) :
    drawn.find? (·.target == node) = (chosen ++ edges).find? (·.target == node) := by
  induction edges generalizing chosen with
  | nil =>
      obtain rfl : chosen = drawn := by simpa [firstContaining] using taken
      simp
  | cons edge rest inductionHypothesis =>
      rw [firstContaining] at taken
      split_ifs at taken
      cases found : chosen.find? (·.target == edge.target) with
      | none =>
          rw [found] at taken
          rw [inductionHypothesis taken, List.append_assoc, List.singleton_append]
      | some first =>
          simp only [found] at taken
          split_ifs at taken
          rw [inductionHypothesis taken, List.find?_append, List.find?_append, List.find?_cons]
          split
          next enters =>
            obtain rfl : edge.target = node := by simpa using enters
            rw [found]
            rfl
          next => rfl

/-! ## Resolved edges -/

/-- A node declares a known container, and not itself unless an edge enters it. -/
def Settled (known : List String) (drawn : List Edge) (node : Node) : Prop :=
  (∀ parent, node.parentId = some parent → parent ∈ known) ∧
    (drawn.find? (·.target == node.id) = none → node.parentId ≠ some node.id)

/-- The containment edge of a node: the drawn one, or that of its declared container. -/
def resolvedEdge? (drawn : List Edge) (node : Node) : Option Edge :=
  (drawn.find? (·.target == node.id)).or (node.parentId.map (declaredEdge node))

/-- Containment edges depend only on the first drawn edge into each node. -/
theorem resolvedEdge?_congr
    {drawn other : List Edge}
    (first : ∀ id, drawn.find? (·.target == id) = other.find? (·.target == id)) :
    resolvedEdge? drawn = resolvedEdge? other := by
  funext node
  rw [resolvedEdge?, resolvedEdge?, first]

/-- A node is resolved exactly when it is settled, and then to its containment edge. -/
theorem containingEdge_eq_ok_iff
    (known : List String)
    (drawn : List Edge)
    (node : Node)
    (edge? : Option Edge) :
    containingEdge known drawn node = .ok edge? ↔
      Settled known drawn node ∧ resolvedEdge? drawn node = edge? := by
  unfold containingEdge Settled resolvedEdge?
  cases node.parentId with
  | none => simp
  | some parent =>
      by_cases isKnown : parent ∈ known
      · cases drawn.find? (·.target == node.id) with
        | none =>
            by_cases self : parent = node.id
            · subst self
              simp [isKnown]
            · simp [isKnown, self]
        | some edge => simp [isKnown]
      · simp [isKnown]

/-- Nodes are resolved exactly when all are settled, and then to their containment edges. -/
theorem containingEdges_eq_ok_iff
    (known : List String)
    (drawn : List Edge)
    (nodes : List Node)
    (edges : List Edge) :
    containingEdges known drawn nodes = .ok edges ↔
      (∀ node ∈ nodes, Settled known drawn node) ∧
        nodes.filterMap (resolvedEdge? drawn) = edges := by
  induction nodes generalizing edges with
  | nil => simp [containingEdges, eq_comm]
  | cons node rest inductionHypothesis =>
      simp only [containingEdges, bind_eq_ok_iff, containingEdge_eq_ok_iff,
        inductionHypothesis, List.forall_mem_cons]
      constructor
      · rintro ⟨_, ⟨settled, rfl⟩, _, ⟨othersSettled, rfl⟩, equal⟩
        refine ⟨⟨settled, othersSettled⟩, ?_⟩
        rw [← Except.ok.inj equal]
        cases resolved : resolvedEdge? drawn node <;> simp [resolved]
      · rintro ⟨⟨settled, othersSettled⟩, rfl⟩
        refine ⟨_, ⟨settled, rfl⟩, _, ⟨othersSettled, rfl⟩, ?_⟩
        cases resolved : resolvedEdge? drawn node <;> simp [resolved, pure, Except.pure]

/-- The containment edge of a node enters it. -/
theorem target_of_resolvedEdge?
    {drawn : List Edge}
    {node : Node}
    {edge : Edge}
    (resolved : resolvedEdge? drawn node = some edge) :
    edge.target = node.id := by
  rw [resolvedEdge?, Option.or_eq_some_iff] at resolved
  rcases resolved with found | ⟨_, declared⟩
  · exact (found_edge found).2
  · obtain ⟨parent, _, rfl⟩ := Option.map_eq_some_iff.1 declared
    rfl

/-- The edge of a node is a containment edge if the drawn ones are. -/
theorem kind_of_resolvedEdge?
    {drawn : List Edge}
    {node : Node}
    {edge : Edge}
    (containment : ∀ edge ∈ drawn, edge.kind = .containment)
    (resolved : resolvedEdge? drawn node = some edge) :
    edge.kind = .containment := by
  rw [resolvedEdge?, Option.or_eq_some_iff] at resolved
  rcases resolved with found | ⟨_, declared⟩
  · exact containment edge (found_edge found).1
  · obtain ⟨parent, _, rfl⟩ := Option.map_eq_some_iff.1 declared
    rfl

/-- Of the edges of nodes that are named apart, the one into a node is its own. -/
theorem find?_resolvedEdges
    (drawn : List Edge)
    {nodes : List Node}
    (apart : (nodes.map (·.id)).Nodup)
    (id : String) :
    (nodes.filterMap (resolvedEdge? drawn)).find? (·.target == id) =
      (nodes.find? (·.id == id)).bind (resolvedEdge? drawn) := by
  induction nodes with
  | nil => rfl
  | cons node rest inductionHypothesis =>
      obtain ⟨different, restApart⟩ := List.nodup_cons.1 apart
      rw [List.filterMap_cons, List.find?_cons]
      by_cases own : node.id = id
      · subst own
        have absent : rest.find? (·.id == node.id) = none := by
          simpa using different
        cases resolved : resolvedEdge? drawn node with
        | none => simpa [absent, resolved] using inductionHypothesis restApart
        | some edge => simp [target_of_resolvedEdge? resolved, resolved]
      · have other : (node.id == id) = false := by simpa using own
        simp only [other]
        cases resolved : resolvedEdge? drawn node with
        | none => exact inductionHypothesis restApart
        | some edge =>
            rw [List.find?_cons, target_of_resolvedEdge? resolved, other]
            exact inductionHypothesis restApart

end CloudPlan.Diagram
