import CloudPlan.Diagram.Resolution
import CloudPlan.Proofs.Diagram.Contents
import CloudPlan.Proofs.Outcome
import CloudPlan.Proofs.Relation.Rooted
import CloudPlan.Proofs.Relation.Round
import Mathlib.Data.List.Perm.Subperm

/-!
# When containment is a forest

Walks along containers share their marks.  At every moment the ids in progress are those on the
path of the walk that is under way, and from those that are done, by whichever walk, following
containers ends.  So a walk that comes to something in progress has gone around a cycle, and
reports no more than the round, while one that comes to something done cannot have missed a
cycle behind it.  All walks end exactly when containment has no cycle.
-/

namespace CloudPlan

namespace Graph

/-- Containment joins nodes of the graph. -/
def Joined (graph : Graph) : Prop :=
  ∀ id parent, graph.parentId? id = some parent → id ∈ graph.ids ∧ parent ∈ graph.ids

/-- Nodes are named apart, edges join nodes, and following parents always ends. -/
structure IsForest (graph : Graph) : Prop where
  /-- No two nodes have the same id. -/
  apart : graph.ids.Nodup
  /-- Containment joins nodes. -/
  joined : graph.Joined
  /-- Following parents ends. -/
  rooted : ∀ id, Rooted graph.parentId? id
  /-- Dependencies join nodes. -/
  dependenciesJoined : ∀ edge ∈ graph.dependency,
    edge.source ∈ graph.ids ∧ edge.target ∈ graph.ids

end Graph

namespace Diagram

variable {parents : Dictionary String} {marks : Dictionary Mark} {ids path : List String}
  {current : Option String} {id : String}

/-! ## Marks -/

theorem markOf_insert
    (marks : Dictionary Mark)
    (key id : String)
    (mark : Mark) :
    markOf (marks.insert key mark) id = if id = key then mark else markOf marks id := by
  rw [markOf, Dictionary.get?_insert]
  split
  next => rfl
  next => rfl

/-- The ids of a path are done when it is finished, and all others are marked as before. -/
theorem markOf_finish
    (marks : Dictionary Mark)
    (path : List String)
    (id : String) :
    markOf (finish marks path) id = if id ∈ path then .done else markOf marks id := by
  induction path generalizing marks with
  | nil => simp [finish]
  | cons first rest inductionHypothesis =>
      change markOf (finish (marks.insert first .done) rest) id = _
      rw [inductionHypothesis, markOf_insert]
      by_cases isFirst : id = first
      · simp [isFirst]
      · simp [isFirst]

/-- At the start all nodes are unvisited, and nothing else is. -/
theorem markOf_unvisited
    (graph : Graph)
    (id : String) :
    markOf (unvisited graph.nodes) id = if id ∈ graph.ids then .unvisited else .done := by
  have marked (nodes : List Node) (marks : Dictionary Mark) :
      markOf (nodes.foldl (fun marks node => marks.insert node.id .unvisited) marks) id =
        if id ∈ nodes.map (·.id) then .unvisited else markOf marks id := by
    induction nodes generalizing marks with
    | nil => simp
    | cons node rest inductionHypothesis =>
        rw [List.foldl_cons, inductionHypothesis, markOf_insert]
        by_cases isFirst : id = node.id
        · simp [isFirst]
        · simp [isFirst]
  exact marked graph.nodes .empty

/-- What the marks of some ids tell while a walk has come along a path. -/
structure Marked (parents : Dictionary String) (ids : List String) (marks : Dictionary Mark)
    (path : List String) : Prop where
  /-- Nothing else than the ids is unvisited. -/
  known : ∀ id, markOf marks id = .unvisited → id ∈ ids
  /-- In progress is what the walk has gone through. -/
  inProgress : ∀ id, markOf marks id = .inProgress ↔ id ∈ path
  /-- From what is done following containers ends. -/
  done : ∀ id, markOf marks id = .done → Rooted parents.get? id
  /-- The walk has gone through ids only. -/
  inside : path ⊆ ids
  /-- It has gone through none of them twice. -/
  apart : path.Nodup
  /-- It has gone from each to its container. -/
  chain : path.IsChain (StepsTo parents.get?)

/-- The last id of a path leads on to the current one. -/
def LeadsTo (parents : Dictionary String) (path : List String) (current : Option String) : Prop :=
  ∀ last ∈ path.getLast?, parents.get? last = current

/-- No path leads to the node that a walk starts from. -/
theorem leadsTo_nil (parents : Dictionary String) (current : Option String) :
    LeadsTo parents [] current := by
  simp [LeadsTo]

theorem leadsTo_concat
    (parents : Dictionary String)
    (path : List String)
    (id : String) :
    LeadsTo parents (path ++ [id]) (parents.get? id) := by
  intro last isLast
  obtain rfl : id = last := by simpa using isLast
  rfl

/-- A path goes on to the id that it leads to. -/
theorem LeadsTo.isChain_concat
    (leads : LeadsTo parents path (some id))
    (chain : path.IsChain (StepsTo parents.get?)) :
    (path ++ [id]).IsChain (StepsTo parents.get?) := by
  refine chain.append (List.isChain_singleton id) ?_
  intro last isLast next isNext
  obtain rfl : id = next := by simpa using isNext
  exact leads last isLast

namespace Marked

/-- Before the first walk nothing but the ids is marked. -/
theorem start
    {graph : Graph}
    (joined : graph.Joined) :
    Marked graph.parents graph.ids (unvisited graph.nodes) [] := by
  constructor
  case known =>
    intro id unvisited
    rw [markOf_unvisited] at unvisited
    by_contra unknown
    rw [if_neg unknown] at unvisited
    contradiction
  case inProgress =>
    intro id
    rw [markOf_unvisited]
    split
    next => simp
    next => simp
  case done =>
    intro id isDone
    rw [markOf_unvisited] at isDone
    split at isDone
    next => contradiction
    next unknown =>
      cases isParent : graph.parentId? id with
      | none => exact Rooted.root isParent
      | some parent => exact absurd (joined id parent isParent).1 unknown
  case inside => exact List.nil_subset _
  case apart => exact List.nodup_nil
  case chain => exact List.isChain_nil

/-- A walk goes through an id that is unvisited. -/
theorem enter
    (marked : Marked parents ids marks path)
    (leads : LeadsTo parents path (some id))
    (unvisited : markOf marks id = .unvisited) :
    Marked parents ids (marks.insert id .inProgress) (path ++ [id]) := by
  have new : id ∉ path := by
    rw [← marked.inProgress, unvisited]
    exact Mark.noConfusion
  constructor
  case known =>
    intro other
    rw [markOf_insert]
    split
    next => exact Mark.noConfusion
    next => exact marked.known other
  case inProgress =>
    intro other
    rw [markOf_insert, List.mem_append, List.mem_singleton]
    split
    next isNew => simp [isNew]
    next isOther => simp [isOther, marked.inProgress]
  case done =>
    intro other
    rw [markOf_insert]
    split
    next => exact Mark.noConfusion
    next => exact marked.done other
  case inside =>
    exact List.append_subset.2 ⟨marked.inside, by simpa using marked.known id unvisited⟩
  case apart =>
    rw [← List.concat_eq_append]
    exact marked.apart.concat new
  case chain => exact leads.isChain_concat marked.chain

/-- Where the path leads to something rooted, all of it is rooted. -/
theorem rooted
    (marked : Marked parents ids marks path)
    (leads : LeadsTo parents path current)
    (ends : ∀ id ∈ current, Rooted parents.get? id) :
    ∀ id ∈ path, Rooted parents.get? id := by
  refine marked.chain.backwards_induction _ _ (fun _ _ isParent => Rooted.step isParent) ?_
  intro nonempty
  have isParent := leads _ (List.getLast?_eq_some_getLast nonempty)
  cases current with
  | none => exact Rooted.root isParent
  | some id => exact Rooted.step isParent (ends id rfl)

/-- When a walk has ended with its path rooted, all of the path is done. -/
theorem finish
    (marked : Marked parents ids marks path)
    (rooted : ∀ id ∈ path, Rooted parents.get? id) :
    Marked parents ids (finish marks path) [] := by
  constructor
  case known =>
    intro id
    rw [markOf_finish]
    split
    next => exact Mark.noConfusion
    next => exact marked.known id
  case inProgress =>
    intro id
    rw [markOf_finish]
    split
    next => simp
    next notOnPath => simp [marked.inProgress, notOnPath]
  case done =>
    intro id
    rw [markOf_finish]
    split
    next onPath => exact fun _ => rooted id onPath
    next => exact marked.done id
  case inside => exact List.nil_subset _
  case apart => exact List.nodup_nil
  case chain => exact List.isChain_nil

end Marked

/-! ## Walks -/

/-- From an id on a path the cycle goes along the path to its end, and back to the id. -/
theorem cycleAt_append
    {front : List String}
    (new : id ∉ front)
    (back : List String) :
    cycleAt (front ++ id :: back) id = id :: back ++ [id] := by
  have notBefore : front.findIdx? (· == id) = none := by
    rw [List.findIdx?_eq_none_iff]
    exact fun other inFront => beq_false_of_ne fun same => new (same ▸ inFront)
  have place : (front ++ id :: back).findIdx? (· == id) = some front.length := by
    rw [List.findIdx?_append, notBefore, List.findIdx?_cons, if_pos (beq_self_eq_true id)]
    simp
  rw [cycleAt, place, Option.getD_some, List.drop_left]

/-- A walk fails where it has gone around, and what it reports is the round. -/
theorem exists_round_of_walk
    {error : Error}
    (fuel : Nat)
    (marked : Marked parents ids marks path)
    (leads : LeadsTo parents path current)
    (fails : walk parents fuel marks path current = .error error) :
    ∃ start between, error = .cycle start (start :: between ++ [start]) ∧
      IsRound (StepsTo parents.get?) (start :: between ++ [start]) := by
  induction fuel generalizing marks path current with
  | zero => cases current <;> cases fails
  | succ fuel inductionHypothesis =>
      cases current with
      | none => cases fails
      | some id =>
          rw [walk] at fails
          split at fails
          next => contradiction
          next isInProgress =>
            -- What is in progress is on the path of this very walk.
            have onPath := (marked.inProgress id).1 isInProgress
            obtain ⟨front, back, rfl, new⟩ := List.eq_append_cons_of_mem onPath
            have leadsAround : LeadsTo parents (id :: back) (some id) := by
              rwa [LeadsTo, List.getLast?_append_of_ne_nil _ (List.cons_ne_nil id back)] at leads
            rw [cycleAt_append new] at fails
            exact ⟨id, back, (Except.error.inj fails).symm, id, back, rfl,
              marked.apart.of_append_right, leadsAround.isChain_concat marked.chain.right_of_append⟩
          next unvisited =>
            exact inductionHypothesis (marked.enter leads unvisited) (leadsTo_concat _ _ _) fails

/-- Where a walk ends after enough steps, all of its path is rooted, and so is what it has come
to. -/
theorem rooted_of_walk
    {after : Dictionary Mark}
    {met : List String}
    (fuel : Nat)
    (marked : Marked parents ids marks path)
    (leads : LeadsTo parents path current)
    (enough : ids.length < fuel + path.length)
    (ends : walk parents fuel marks path current = .ok (after, met)) :
    Marked parents ids after met ∧ (∀ id ∈ met, Rooted parents.get? id) ∧
      ∀ id ∈ path ++ current.toList, Rooted parents.get? id := by
  induction fuel generalizing marks path current with
  | zero =>
      -- The path holds no id twice, so it cannot outgrow the ids.
      have short := (List.subperm_of_subset marked.apart marked.inside).length_le
      omega
  | succ fuel inductionHypothesis =>
      cases current with
      | none =>
          obtain ⟨rfl, rfl⟩ := Prod.mk.inj (Except.ok.inj ends)
          have rooted := marked.rooted leads (by simp)
          exact ⟨marked, rooted, by simpa using rooted⟩
      | some id =>
          rw [walk] at ends
          split at ends
          next isDone =>
            obtain ⟨rfl, rfl⟩ := Prod.mk.inj (Except.ok.inj ends)
            have idRooted := marked.done id isDone
            have rooted := marked.rooted leads (by simpa using idRooted)
            exact ⟨marked, rooted, List.forall_mem_append.2 ⟨rooted, by simpa using idRooted⟩⟩
          next => contradiction
          next unvisited =>
            have stillEnough : ids.length < fuel + (path ++ [id]).length := by
              rw [List.length_append, List.length_singleton]
              omega
            obtain ⟨afterMarked, metRooted, rooted⟩ := inductionHypothesis
              (marked.enter leads unvisited) (leadsTo_concat _ _ _) stillEnough ends
            exact ⟨afterMarked, metRooted, (List.forall_mem_append.1 rooted).1⟩

/-! ## All walks -/

/-- One of the walks fails only where it has gone around. -/
theorem exists_round_of_walkAll
    {error : Error}
    {nodes : List Node}
    (marked : Marked parents ids marks [])
    (fails : walkAll parents (ids.length + 1) marks nodes = .error error) :
    ∃ start between, error = .cycle start (start :: between ++ [start]) ∧
      IsRound (StepsTo parents.get?) (start :: between ++ [start]) := by
  induction nodes generalizing marks with
  | nil => cases fails
  | cons node rest inductionHypothesis =>
      rw [walkAll] at fails
      cases first : walk parents (ids.length + 1) marks [] (some node.id) with
      | error reported =>
          rw [first] at fails
          obtain rfl := Except.error.inj fails
          exact exists_round_of_walk _ marked (leadsTo_nil _ _) first
      | ok result =>
          rw [first] at fails
          obtain ⟨afterMarked, metRooted, _⟩ :=
            rooted_of_walk _ marked (leadsTo_nil _ _) (Nat.lt_succ_self _) first
          exact inductionHypothesis (afterMarked.finish metRooted) fails

/-- Where all walks end, all nodes are rooted. -/
theorem rooted_of_walkAll
    {nodes : List Node}
    (marked : Marked parents ids marks [])
    (ends : walkAll parents (ids.length + 1) marks nodes = .ok ()) :
    ∀ node ∈ nodes, Rooted parents.get? node.id := by
  induction nodes generalizing marks with
  | nil => exact List.forall_mem_nil _
  | cons node rest inductionHypothesis =>
      rw [walkAll] at ends
      obtain ⟨⟨after, met⟩, first, ends⟩ := bind_eq_ok_iff.1 ends
      obtain ⟨afterMarked, metRooted, rooted⟩ :=
        rooted_of_walk _ marked (leadsTo_nil _ _) (Nat.lt_succ_self _) first
      exact List.forall_mem_cons.2
        ⟨by simpa using rooted, inductionHypothesis (afterMarked.finish metRooted) ends⟩

section checkForest

variable {graph passed : Graph} (joined : graph.Joined)
include joined

/-- A graph fails with a round of containers only. -/
theorem exists_round_of_checkForest
    {error : Error}
    (fails : checkForest graph = .error error) :
    ∃ start between, error = .cycle start (start :: between ++ [start]) ∧
      IsRound (StepsTo graph.parentId?) (start :: between ++ [start]) := by
  rw [checkForest, ← List.length_map (·.id), ← Graph.ids] at fails
  cases walks : walkAll graph.parents (graph.ids.length + 1) (unvisited graph.nodes)
      graph.nodes with
  | error reported =>
      rw [walks] at fails
      obtain rfl := Except.error.inj fails
      exact exists_round_of_walkAll (Marked.start joined) walks
  | ok =>
      rw [walks] at fails
      cases fails

/-- When all walks end, every id is rooted. -/
theorem rooted_of_checkForest
    (passes : checkForest graph = .ok passed)
    (id : String) :
    Rooted graph.parentId? id := by
  rw [checkForest, ← List.length_map (·.id), check_bind_eq_ok_iff] at passes
  have rooted := rooted_of_walkAll (Marked.start joined) passes.1
  cases isParent : graph.parentId? id with
  | none => exact Rooted.root isParent
  | some parent =>
      obtain ⟨node, member, rfl⟩ := List.mem_map.1 (joined id parent isParent).1
      exact rooted node member

/-- A graph passes exactly when containment has no cycle, and is not changed. -/
theorem checkForest_eq_ok_iff :
    checkForest graph = .ok passed ↔
      Acyclic (StepsTo graph.parentId?) ∧ graph = passed := by
  constructor
  · intro passes
    have acyclic : Acyclic (StepsTo graph.parentId?) :=
      Rooted.acyclic fun id _ _ => rooted_of_checkForest joined passes id
    rw [checkForest, check_bind_eq_ok_iff] at passes
    exact ⟨acyclic, Except.ok.inj passes.2⟩
  · rintro ⟨acyclic, rfl⟩
    cases walks : checkForest graph with
    | ok other =>
        rw [checkForest, check_bind_eq_ok_iff] at walks
        exact walks.2.symm ▸ rfl
    | error error =>
        obtain ⟨start, between, _, round⟩ := exists_round_of_checkForest joined walks
        exact absurd (round.on_cycle List.mem_cons_self) (acyclic start)

end checkForest

end Diagram

end CloudPlan
