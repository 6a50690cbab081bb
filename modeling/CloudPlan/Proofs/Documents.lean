import CloudPlan.Architecture.Document
import CloudPlan.Proofs.Constraint.Loading

/-!
# Documents that are read back

What is written of an architecture is read as the architecture, without the graph that it was made
from, and what is written of constraints is read as the constraints, as a value and as text.  Every
record is written with all of its fields, a constraint with its name if it has one.
-/

namespace CloudPlan

open Json

/-! ## Names -/

theorem Provider.named?_name (provider : Provider) :
    named? provider.name = some provider := by
  cases provider <;> rfl

theorem DependencyType.named?_name (type : DependencyType) :
    named? type.name = some type := by
  cases type <;> rfl

theorem Origin.named?_name (origin : Origin) :
    named? origin.name = some origin := by
  cases origin <;> rfl

/-! ## Lists -/

/-- Where an item is read as what it was written for, so are lists of them. -/
theorem mapM_map_eq_some
    {α β : Type}
    {read : β → Option α}
    {write : α → β}
    (readBack : ∀ item, read (write item) = some item)
    (items : List α) :
    (items.map write).mapM read = some items := by
  induction items with
  | nil => rfl
  | cons first rest inductionHypothesis =>
      rw [List.map_cons, List.mapM_cons, readBack, inductionHypothesis]
      rfl

theorem list?_list_map
    {α : Type}
    {read : Value → Option α}
    {write : α → Value}
    (readBack : ∀ item, read (write item) = some item)
    (items : List α) :
    list? read (Value.list (items.map write)) = some items :=
  mapM_map_eq_some readBack items

theorem list?_nested_list_map
    {α : Type}
    {read : Nested → Option α}
    {write : α → Tree}
    {room : Nat}
    (readBack : ∀ item, read (Nested.mk (write item) room) = some item)
    (items : List α) :
    list? read (Nested.mk (.list (items.map write)) (room + 1)) = some items := by
  rw [list?, view_list_nested, List.map_map]
  exact mapM_map_eq_some readBack items

theorem list?_ofTexts (texts : List String) :
    list? text? (Value.ofTexts texts) = some texts := by
  have readBack : ∀ content, text? (Value.text content) = some content := fun _ => rfl
  exact list?_list_map readBack texts

/-! ## Architectures -/

theorem Dependency.decode?_encode (dependency : Dependency) :
    decode? dependency.encode = some dependency := by
  have isType := dependency.type.named?_name
  have isOrigin := dependency.origin.named?_name
  simp only [decode?, Option.bind_eq_bind, Option.bind_eq_some_iff]
  exact ⟨_, rfl, _, rfl, _, isType, _, isOrigin, rfl⟩

theorem Resource.decode?_encode (resource : Resource) :
    decode? resource.encode = some resource := by
  have areParents := list?_ofTexts resource.parents
  have areChildren := list?_ofTexts resource.children
  have areDependencies := list?_list_map Dependency.decode?_encode resource.dependsOn
  simp only [decode?, Option.bind_eq_bind, Option.bind_eq_some_iff]
  exact ⟨_, rfl, _, rfl, _, rfl, _, rfl, _, rfl, _, areParents, _, areChildren, _,
    areDependencies, _, rfl, rfl⟩

theorem Architecture.decode?_encode (architecture : Architecture) :
    decode? architecture.encode = some { architecture with graph := none } := by
  have isProvider := architecture.provider.named?_name
  have areResources := list?_list_map Resource.decode?_encode architecture.resources
  simp only [decode?, Option.bind_eq_bind, Option.bind_eq_some_iff]
  exact ⟨_, rfl, _, isProvider, _, rfl, _, areResources, _, rfl, rfl⟩

/-! ## Constraints -/

theorem Constraint.decode?_encode (constraint : Constraint) :
    decode? constraint.encode = some constraint := by
  obtain ⟨id, resourceType, kindName, value⟩ := constraint
  simp only [decode?, Option.bind_eq_bind, Option.bind_eq_some_iff]
  cases id with
  | none => exact ⟨_, rfl, _, rfl, _, rfl, _, rfl, _, rfl, rfl⟩
  | some id => exact ⟨_, rfl, _, rfl, _, rfl, _, rfl, _, rfl, rfl⟩

theorem ConstraintSet.decode?_encode (set : ConstraintSet) :
    decode? (encode set) = some set := by
  have areConstraints := list?_list_map Constraint.decode?_encode set
  simp only [decode?, encode, Source.view]
  exact areConstraints

/-! ## Printed constraints -/

section printed

open Json.Reader

/-- A constraint as it is written. -/
def Constraint.written (constraint : Constraint) : Tree :=
  .object <|
    (constraint.id.map fun id => (some "id", .text (some id))).toList ++
      [(some "resourceType", .text (some constraint.resourceType)),
        (some "constraintType", .text (some constraint.kindName)),
        (some "constraintValue", .text (some constraint.value))]

/-- Constraints as they are written. -/
def ConstraintSet.written (set : ConstraintSet) : Tree :=
  .object [(some "constraints", .list (set.map Constraint.written))]

theorem Constraint.readsBack_encode (constraint : Constraint) :
    ReadsBack constraint.encode constraint.written := by
  obtain ⟨id, resourceType, kindName, value⟩ := constraint
  apply readsBack_object
  have others : List.Forall₂ MemberReadsBack
      [("resourceType", .text resourceType), ("constraintType", .text kindName),
        ("constraintValue", .text value)]
      [(some "resourceType", .text (some resourceType)),
        (some "constraintType", .text (some kindName)),
        (some "constraintValue", .text (some value))] :=
    .cons ⟨rfl, readsBack_text _⟩ <| .cons ⟨rfl, readsBack_text _⟩ <|
      .cons ⟨rfl, readsBack_text _⟩ .nil
  cases id with
  | none => exact others
  | some id => exact .cons ⟨rfl, readsBack_text id⟩ others

theorem ConstraintSet.readsBack_encode (set : ConstraintSet) :
    ReadsBack (encode set) (written set) := by
  apply readsBack_object
  refine .cons ⟨rfl, readsBack_list ?_⟩ .nil
  rw [List.forall₂_map_left_iff, List.forall₂_map_right_iff, List.forall₂_same]
  exact fun constraint _ => constraint.readsBack_encode

theorem Constraint.decode?_written
    (constraint : Constraint)
    (room : Nat) :
    decode? (Nested.mk constraint.written (room + 1)) = some constraint := by
  obtain ⟨id, resourceType, kindName, value⟩ := constraint
  cases id with
  | none => exact decode?_eq_some_iff.2 ⟨_, rfl, rfl, rfl, rfl, rfl⟩
  | some id => exact decode?_eq_some_iff.2 ⟨_, rfl, rfl, rfl, rfl, rfl⟩

theorem Constraint.isSome_value?_written
    (constraint : Constraint)
    (room : Nat) :
    (constraint.written.value? (room + 1)).isSome := by
  obtain ⟨id, resourceType, kindName, value⟩ := constraint
  cases id with
  | none => rfl
  | some id => rfl

/-- All of a document that lists constraints has content. -/
theorem ConstraintSet.isSome_items?_map_written
    (set : ConstraintSet)
    (room : Nat) :
    (Tree.items? (room + 1) (set.map Constraint.written)).isSome := by
  induction set with
  | nil => rfl
  | cons constraint rest inductionHypothesis =>
      obtain ⟨value, isValue⟩ := Option.isSome_iff_exists.1 (constraint.isSome_value?_written room)
      obtain ⟨values, areValues⟩ := Option.isSome_iff_exists.1 inductionHypothesis
      rw [List.map_cons, Tree.items?, isValue, areValues]
      rfl

/-- Printed constraints are read back. -/
theorem ConstraintSet.ofJson?_compact_encode (set : ConstraintSet) :
    ofJson? (encode set).compact = some set := by
  have areConstraints : list? Constraint.decode?
      (Nested.mk (.list (set.map Constraint.written)) 126) = some set :=
    list?_nested_list_map (fun constraint => constraint.decode?_written 124) set
  rw [ofJson?_eq_some_iff]
  refine ⟨_, (readsBack_encode set).ofText?_compact, ?_, areConstraints⟩
  obtain ⟨values, areValues⟩ := Option.isSome_iff_exists.1 (isSome_items?_map_written set 124)
  simp [written, Tree.value?, Tree.members?, mostNested, areValues]

end printed

/-- Documents are read back: what is written of an architecture gives the architecture but for its
graph, and what is written of constraints gives the constraints, also from the printed text. -/
theorem documents_read_back :
    (∀ architecture : Architecture,
      Architecture.decode? architecture.encode = some { architecture with graph := none }) ∧
    ∀ set : ConstraintSet,
      ConstraintSet.decode? (ConstraintSet.encode set) = some set ∧
      ConstraintSet.ofJson? (ConstraintSet.encode set).compact = some set :=
  ⟨Architecture.decode?_encode,
    fun set => ⟨ConstraintSet.decode?_encode set, ConstraintSet.ofJson?_compact_encode set⟩⟩

end CloudPlan
