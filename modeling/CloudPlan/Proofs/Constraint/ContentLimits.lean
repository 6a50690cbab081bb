import CloudPlan.Proofs.Constraint.Compliance
import CloudPlan.Proofs.Constraint.Findings
import CloudPlan.Proofs.Text.Digits
import Std.Data.String.ToNat

/-!
# Limits on contents of a type

A constraint that limits how many resources of a type another one contains has the type and the
number as its value, with a colon between them.  The value is divided at its first colon, so it
says what is meant exactly when the name of the type holds no colon and the number can be read.
-/

namespace CloudPlan

/-- A limit on the number of contents: a greatest number or a least number. -/
inductive ContentLimit where
  | most
  | least
deriving DecidableEq

namespace ContentLimit

/-- The kind of the constraints that set the limit. -/
def kind : ContentLimit → ConstraintKind
  | most => .maxChildren
  | least => .minChildren

/-- What such a constraint requires, for a bound. -/
def requirement : ContentLimit → ChildBound → Requirement
  | most => .atMost
  | least => .atLeast

/-- A number of contents breaks the limit that a bound sets. -/
def IsBrokenBy : ContentLimit → Nat → Nat → Prop
  | most, bound, found => bound < found
  | least, bound, found => found < bound

/-- The constraint that limits how many resources of a type are contained in those of another. -/
def constraint (limit : ContentLimit) (resourceType childType : String) (count : Nat) :
    Constraint :=
  .ofKind resourceType limit.kind (childType ++ ":" ++ toString count)

end ContentLimit

/-! ## The value -/

section value

variable {childType : String}

/-- No blanks stand at the ends of the value. -/
theorem trim_typed
    (named : childType ≠ "")
    (trimmed : Text.trim childType = childType)
    (count : Nat) :
    Text.trim (childType ++ ":" ++ toString count) = childType ++ ":" ++ toString count := by
  apply Text.trim_eq_self
  · intro c isHead
    obtain ⟨first, more, isType⟩ := List.exists_cons_of_ne_nil (mt String.toList_eq_nil_iff.1 named)
    have isFirst : first = c := by simpa [isType] using isHead
    have kept : Text.trimChars childType.toList = first :: more := by
      rw [← isType]
      exact String.toList_ofList.symm.trans (congrArg String.toList trimmed)
    rw [Text.trimChars_eq] at kept
    rw [← isFirst]
    exact not_of_trimmed kept
  · intro c isLast
    rw [String.toList_append,
      List.getLast?_append_of_ne_nil _ (Text.toList_toString_ne_nil count)] at isLast
    exact Text.isBlank_of_mem_toString (List.mem_of_getLast? isLast)

/-- The value is read as the bound that is meant, unless the type holds a colon or the number
does not fit a machine word. -/
theorem parse?_typed
    (named : childType ≠ "")
    (trimmed : Text.trim childType = childType)
    (count : Nat) :
    ChildBound.parse? (childType ++ ":" ++ toString count) =
      if ':' ∉ childType.toList ∧ count < Text.wordBound then
        some { childType := some childType, count }
      else
        none := by
  have number : Text.trim (toString count) = toString count :=
    Text.trim_eq_self
      (fun c isHead => Text.isBlank_of_mem_toString (List.mem_of_mem_head? isHead))
      (fun c isLast => Text.isBlank_of_mem_toString (List.mem_of_getLast? isLast))
  rcases ChildBound.plain_or_colon childType with plain | ⟨before, after, first, rfl⟩
  · have filled : Text.trim childType ≠ "" := by rwa [trimmed]
    rw [ChildBound.parse?_of_colon plain, if_neg filled, number, trimmed, Text.word?_toString]
    by_cases fits : count < Text.wordBound
    · simp [plain, fits]
    · simp [fits]
  · -- The second colon stands in what should be the number.
    have divided : before ++ ":" ++ after ++ ":" ++ toString count =
        before ++ ":" ++ (after ++ ":" ++ toString count) := by
      simp [String.append_assoc]
    have unread : Text.word? (Text.trim (after ++ ":" ++ toString count)) = none := by
      rw [Option.eq_none_iff_forall_ne_some]
      intro value read
      have colon : ':' ∈ (Text.trim (after ++ ":" ++ toString count)).toList :=
        Text.mem_trim (by simp) (by decide)
      have isDigit := Text.isDigit_or_plus_of_word? read ':' colon
      revert isDigit
      decide
    rw [divided, ChildBound.parse?_of_colon first, unread]
    simp

end value

/-! ## A box and its items -/

/-- A box. -/
def Node.box (boxType : String) : Node where
  id := "box"
  typeName := boxType

/-- A numbered item in the box. -/
def Node.item (itemType : String) (number : Nat) : Node where
  id := toString number
  typeName := itemType
  parentId := some "box"

/-- A box with so many items in it. -/
def Diagram.packed (boxType itemType : String) (items : Nat) : Diagram where
  nodes := .box boxType :: (List.range items).map (.item itemType)

namespace Diagram

variable {boxType itemType : String} {items : Nat}

theorem item_id_ne_box_id (number : Nat) : (Node.item itemType number).id ≠ "box" := by
  intro equal
  have text : toString number = "box" := equal
  have isDigit : Char.isDigit 'b' = true := by
    apply Nat.isDigit_of_mem_toDigits (b := 10) (n := number) (by decide) (by decide)
    rw [← Text.toList_toString, text]
    decide
  contradiction

theorem nodup_ids_packed (boxType itemType : String) (items : Nat) :
    (packed boxType itemType items).ids.Nodup := by
  rw [ids, packed, List.map_cons, List.map_map, List.nodup_cons]
  constructor
  · rw [List.mem_map]
    rintro ⟨number, _, equal⟩
    exact item_id_ne_box_id number equal
  · apply List.nodup_range.map
    intro first second equal
    exact Nat.repr_injective equal

/-- Nodes are in what they declare. -/
theorem container?_packed_eq_some_iff
    {id parent : String} :
    (packed boxType itemType items).container? id = some parent ↔
      ∃ node ∈ (packed boxType itemType items).nodes,
        node.id = id ∧ node.parentId = some parent := by
  have undrawn : (packed boxType itemType items).container? id =
      ((packed boxType itemType items).nodes.find? (·.id == id)).bind (·.parentId) := rfl
  simp only [undrawn, Option.bind_eq_some_iff,
    find?_name_eq_some_iff (nodup_ids_packed boxType itemType items), and_assoc]

/-- Nodes are in nothing or in the box, and the box is in nothing. -/
theorem parentId_packed
    {node : Node}
    (isNode : node ∈ (packed boxType itemType items).nodes)
    {parent : String}
    (declared : node.parentId = some parent) :
    parent = "box" ∧ node.id ≠ "box" := by
  rcases List.mem_cons.1 isNode with rfl | isItem
  · contradiction
  · obtain ⟨number, _, rfl⟩ := List.mem_map.1 isItem
    exact ⟨(Option.some.inj declared).symm, item_id_ne_box_id number⟩

theorem acceptable_packed
    (items : Nat)
    (boxTyped : Text.isBlankText boxType = false)
    (itemTyped : Text.isBlankText itemType = false) :
    (packed boxType itemType items).Acceptable := by
  have noEdge : ∀ edge, edge ∉ (packed boxType itemType items).edges := fun _ => List.not_mem_nil
  have undrawn : ∀ edge, edge ∉ (packed boxType itemType items).containments :=
    fun edge drawn => noEdge edge (List.mem_of_mem_filter drawn)
  constructor
  case named =>
    intro node isNode
    rcases List.mem_cons.1 isNode with rfl | isItem
    · have boxNamed : Text.isBlankText "box" = false := by decide
      exact ⟨boxNamed, boxTyped⟩
    · obtain ⟨number, _, rfl⟩ := List.mem_map.1 isItem
      exact ⟨Text.isBlankText_toString number, itemTyped⟩
  case nodesApart => exact nodup_ids_packed boxType itemType items
  case edgesApart => exact List.nodup_nil
  case endsKnown => exact fun edge member => absurd member (noEdge edge)
  case parentsKnown =>
    intro node isNode parent declared
    obtain ⟨rfl, _⟩ := parentId_packed isNode declared
    exact List.mem_cons_self
  case noLoop => exact fun edge drawn => absurd drawn (undrawn edge)
  case agreeing => exact fun edge drawn => absurd drawn (undrawn edge)
  case noSelfParent =>
    intro node isNode _ declared
    obtain ⟨isBox, notBox⟩ := parentId_packed isNode declared
    exact notBox isBox
  case acyclic =>
    apply Acyclic.of_rank fun id => if id = "box" then 1 else 0
    intro id parent isParent
    obtain ⟨node, isNode, rfl, declared⟩ := container?_packed_eq_some_iff.1 isParent
    obtain ⟨rfl, notBox⟩ := parentId_packed isNode declared
    simp [notBox]

theorem toGraph_packed
    (items : Nat)
    (boxTyped : Text.isBlankText boxType = false)
    (itemTyped : Text.isBlankText itemType = false) :
    (packed boxType itemType items).toGraph =
      .ok (packed boxType itemType items).resolvedGraph :=
  (toGraph_eq_ok_iff _ _).2 ⟨acceptable_packed items boxTyped itemTyped, rfl⟩

/-- All items are in the box. -/
theorem countContents_packed
    (items : Nat)
    (boxTyped : Text.isBlankText boxType = false)
    (itemTyped : Text.isBlankText itemType = false) :
    (packed boxType itemType items).resolvedGraph.countContents "box" (some itemType) = items := by
  have resolves := (acceptable_packed items boxTyped itemTyped).resolves
  have holds (id : String) :
      (packed boxType itemType items).resolvedGraph.Holds "box" id ↔
        ∃ node ∈ (packed boxType itemType items).nodes,
          node.id = id ∧ node.parentId = some "box" := by
    rw [← Graph.parentId?_eq_some_iff (toGraph_packed items boxTyped itemTyped), resolves.parents,
      container?_packed_eq_some_iff]
  have boxNowhere : ¬ (packed boxType itemType items).resolvedGraph.Holds "box" "box" := by
    rw [holds]
    rintro ⟨node, isNode, isBox, declared⟩
    exact (parentId_packed isNode declared).2 isBox
  have itemsHeld : ∀ number ∈ List.range items,
      (packed boxType itemType items).resolvedGraph.Holds "box" (toString number) := by
    intro number listed
    rw [holds]
    exact ⟨.item itemType number, List.mem_cons_of_mem _ (List.mem_map_of_mem listed), rfl, rfl⟩
  have nodes : (packed boxType itemType items).resolvedGraph.nodes =
      .box boxType :: (List.range items).map (.item itemType) := rfl
  unfold Graph.countContents
  rw [nodes, List.countP_cons_of_neg, List.countP_map, List.countP_eq_length.2, List.length_range]
  · intro number listed
    simpa [Node.item] using itemsHeld number listed
  · simp [Node.box, boxNowhere]

end Diagram

/-! ## Enforcement -/

namespace ContentLimit

variable {limit : ContentLimit} {catalog : Catalog} {resourceType childType : String} {count : Nat}

/-- What the constraint requires, if its value is read as it is meant. -/
theorem requirement?_constraint
    (named : childType ≠ "")
    (trimmed : Text.trim childType = childType) :
    (limit.constraint resourceType childType count).requirement? =
      if ':' ∉ childType.toList ∧ count < Text.wordBound then
        some (limit.requirement { childType := some childType, count })
      else
        none := by
  have kind : (limit.constraint resourceType childType count).kind? = some limit.kind := by
    cases limit with
    | most => exact (by decide : ConstraintKind.parse? "max_children" = some .maxChildren)
    | least => exact (by decide : ConstraintKind.parse? "min_children" = some .minChildren)
  have value : (limit.constraint resourceType childType count).value =
      childType ++ ":" ++ toString count := rfl
  have reads (text : String) : Requirement.ofKind? limit.kind text =
      (ChildBound.parse? text).map limit.requirement := by
    cases limit <;> rfl
  rw [Constraint.requirement?, kind, Option.bind_some, value, trim_typed named trimmed, reads,
    parse?_typed named trimmed]
  split <;> rfl

/-- A node does something wrong when the number of its contents breaks the limit. -/
theorem faults_requirement_ne_nil_iff
    {diagram : Diagram}
    {graph : Graph}
    (accepted : diagram.toGraph = .ok graph)
    {region : String}
    {node : Node}
    {bound : ChildBound} :
    (limit.requirement bound).faults graph region node ≠ [] ↔
      limit.IsBrokenBy bound.count (graph.countContents node.id bound.childType) := by
  cases limit with
  | most =>
      simp [requirement, Requirement.faults, Requirement.childCount, IsBrokenBy,
        Graph.countP_children_eq_countContents accepted]
  | least =>
      simp [requirement, Requirement.faults, Requirement.childCount, IsBrokenBy,
        Graph.countP_children_eq_countContents accepted]

/-- The nodes that are reported contain a number of resources that breaks the limit, and the value
is read as it is meant. -/
theorem exists_violation_constraint_iff
    (known : catalog.contains resourceType = true)
    (named : childType ≠ "")
    (trimmed : Text.trim childType = childType)
    {diagram : Diagram}
    {graph : Graph}
    (accepted : diagram.toGraph = .ok graph)
    (region : String)
    {node : Node}
    (isNode : node ∈ graph.nodes)
    (typed : node.typeName = resourceType) :
    (∃ violation ∈
        ConstraintSet.violations [limit.constraint resourceType childType count] catalog graph
          region,
        violation.node = node) ↔
      (':' ∉ childType.toList ∧ count < Text.wordBound) ∧
        limit.IsBrokenBy count (graph.countContents node.id (some childType)) := by
  rw [ConstraintSet.exists_violation_singleton_iff known isNode typed,
    requirement?_constraint named trimmed]
  split
  next isRead =>
    simp [isRead, faults_requirement_ne_nil_iff accepted]
  next unread =>
    simp [unread]

/-- Of the resources of a type, those are reported that contain too many or too few resources of
another type. -/
def IsEnforced
    (limit : ContentLimit)
    (catalog : Catalog)
    (resourceType childType : String)
    (count : Nat) : Prop :=
  ∀ (diagram : Diagram) (graph : Graph) (region : String), diagram.toGraph = .ok graph →
    ∀ node ∈ graph.nodes, node.typeName = resourceType →
      ((∃ violation ∈
          ConstraintSet.violations [limit.constraint resourceType childType count] catalog graph
            region,
          violation.node = node) ↔
        limit.IsBrokenBy count (graph.countContents node.id (some childType)))

/-- Every limit is broken by some number, but for the limit of at least none. -/
theorem exists_isBrokenBy
    (canBreak : ¬ (limit = .least ∧ count = 0)) :
    ∃ found, limit.IsBrokenBy count found := by
  cases limit with
  | most => exact ⟨count + 1, Nat.lt_succ_self count⟩
  | least => exact ⟨0, Nat.pos_of_ne_zero fun isZero => canBreak ⟨rfl, isZero⟩⟩

/-- The limit is enforced exactly when the name of the type holds no colon and the number fits a
machine word.  Of a blank type there are no resources, and nothing contains less than none. -/
theorem isEnforced_iff
    (known : catalog.contains resourceType = true)
    (childTyped : Text.isBlankText childType = false)
    (trimmed : Text.trim childType = childType) :
    limit.IsEnforced catalog resourceType childType count ↔
      Text.isBlankText resourceType = true ∨ (limit = .least ∧ count = 0) ∨
        ':' ∉ childType.toList ∧ count < Text.wordBound := by
  have named : childType ≠ "" := by
    rintro rfl
    contradiction
  constructor
  · intro enforced
    rw [or_iff_not_imp_left, or_iff_not_imp_left, Bool.not_eq_true]
    intro typed canBreak
    obtain ⟨items, breaks⟩ := exists_isBrokenBy canBreak
    have accepted := Diagram.toGraph_packed items typed childTyped
    have reported := enforced _ _ "" accepted (.box resourceType) List.mem_cons_self rfl
    rw [exists_violation_constraint_iff known named trimmed accepted "" List.mem_cons_self rfl]
      at reported
    have tooMuch : limit.IsBrokenBy count ((Diagram.packed resourceType childType
        items).resolvedGraph.countContents "box" (some childType)) := by
      rwa [Diagram.countContents_packed items typed childTyped]
    exact (reported.2 tooMuch).1
  · intro holds diagram graph region accepted node isNode typed
    rw [exists_violation_constraint_iff known named trimmed accepted region isNode typed]
    rcases holds with blank | ⟨rfl, rfl⟩ | isRead
    · obtain ⟨acceptable, rfl⟩ := (Diagram.toGraph_eq_ok_iff _ _).1 accepted
      rw [← typed, (acceptable.named node isNode).2] at blank
      contradiction
    · simp [IsBrokenBy]
    · simp [isRead]

/-- At most two servers in a network are enforced. -/
theorem isEnforced_twoServers :
    plainNetwork.contains "Network" = true ∧ Text.isBlankText "Server" = false ∧
      Text.trim "Server" = "Server" ∧ most.IsEnforced plainNetwork "Network" "Server" 2 := by
  exact ⟨by decide, by decide, by decide,
    (isEnforced_iff (by decide) (by decide) (by decide)).2
      (Or.inr (Or.inr ⟨by decide, by decide⟩))⟩

/-- No instances in a network are not, if the name of their type holds a colon: nothing is wrong
with a network that contains one. -/
theorem not_isEnforced_noInstances :
    plainNetwork.contains "Network" = true ∧ Text.isBlankText "AWS::EC2::Instance" = false ∧
      Text.trim "AWS::EC2::Instance" = "AWS::EC2::Instance" ∧
      (∃ graph, (Diagram.packed "Network" "AWS::EC2::Instance" 1).toGraph = .ok graph ∧
        graph.countContents "box" (some "AWS::EC2::Instance") = 1 ∧
        ConstraintSet.violations [most.constraint "Network" "AWS::EC2::Instance" 0]
          plainNetwork graph "" = []) ∧
      ¬ most.IsEnforced plainNetwork "Network" "AWS::EC2::Instance" 0 := by
  have boxTyped : Text.isBlankText "Network" = false := by decide
  have itemTyped : Text.isBlankText "AWS::EC2::Instance" = false := by decide
  have trimmed : Text.trim "AWS::EC2::Instance" = "AWS::EC2::Instance" := by decide
  have accepted := Diagram.toGraph_packed 1 boxTyped itemTyped
  have contents := Diagram.countContents_packed 1 boxTyped itemTyped
  have unread : (most.constraint "Network" "AWS::EC2::Instance" 0).requirement? = none := by
    rw [requirement?_constraint (by decide) trimmed]
    exact if_neg fun isRead => isRead.1 (by decide)
  have silent : ConstraintSet.violations [most.constraint "Network" "AWS::EC2::Instance" 0]
      plainNetwork (Diagram.packed "Network" "AWS::EC2::Instance" 1).resolvedGraph "" = [] := by
    rw [ConstraintSet.violations_eq_nil_iff]
    intro node _ _ constraint member _ requirement required
    obtain rfl := List.mem_singleton.1 member
    rw [unread] at required
    exact absurd required (Option.not_mem_none requirement)
  have tooMany : most.IsBrokenBy 0 ((Diagram.packed "Network" "AWS::EC2::Instance"
      1).resolvedGraph.countContents "box" (some "AWS::EC2::Instance")) := by
    rw [contents]
    exact Nat.zero_lt_one
  refine ⟨by decide, itemTyped, trimmed, ⟨_, accepted, contents, silent⟩, fun enforced => ?_⟩
  obtain ⟨violation, found, _⟩ :=
    (enforced _ _ "" accepted (.box "Network") List.mem_cons_self rfl).2 tooMany
  rw [silent] at found
  exact List.not_mem_nil found

end ContentLimit

end CloudPlan
