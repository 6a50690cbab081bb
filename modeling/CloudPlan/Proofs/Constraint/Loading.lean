import CloudPlan.Constraint.Document
import CloudPlan.Proofs.Json.Fields
import CloudPlan.Proofs.Json.PrintedTexts

/-!
# Lists of names in documents

A constraint may have a list of names as its value.  In a document it is a JSON list, and the
constraint that is read has the list as it is printed.  Every list of names stands in a document
that is read.
-/

namespace CloudPlan

open Json

/-! ## One constraint -/

namespace Constraint

/-- The text of a list of names is the printed list. -/
theorem valueText?_treeOfTexts
    (names : List String)
    (room : Nat) :
    valueText? (Nested.mk (treeOfTexts names) (room + 1)) = some (typeList names) := by
  have isValue : (treeOfTexts names).value? (room + 1) = some (.ofTexts names) :=
    value?_eq_ofTexts_iff.2 rfl
  have printed : valueText? (Nested.mk (treeOfTexts names) (room + 1)) =
      ((treeOfTexts names).value? (room + 1)).map Value.compact := rfl
  rw [printed, isValue]
  rfl

theorem eq_typeList_of_valueText?
    {names : List String}
    {room : Nat}
    {value : String}
    (reads : valueText? (Nested.mk (treeOfTexts names) room) = some value) :
    value = typeList names := by
  cases room with
  | zero => contradiction
  | succ room =>
      rw [valueText?_treeOfTexts] at reads
      exact (Option.some.inj reads).symm

theorem decode?_eq_some_iff
    {source : Nested}
    {constraint : Constraint} :
    decode? source = some constraint ↔
      ∃ given, fields? fields source = some given ∧
        optional given "id" none (nullable? text?) = some constraint.id ∧
        required given "resourceType" text? = some constraint.resourceType ∧
        required given "constraintType" text? = some constraint.kindName ∧
        optional given "constraintValue" "" valueText? = some constraint.value := by
  simp only [decode?, Option.bind_eq_bind, Option.bind_eq_some_iff]
  constructor
  · rintro ⟨given, isGiven, id, isId, resourceType, isType, kindName, isKind, value, isValue,
      equal⟩
    obtain rfl := Option.some.inj equal
    exact ⟨given, isGiven, isId, isType, isKind, isValue⟩
  · rintro ⟨given, isGiven, isId, isType, isKind, isValue⟩
    exact ⟨given, isGiven, _, isId, _, isType, _, isKind, _, isValue, rfl⟩

/-- A document states a constraint with a list of names as its value. -/
structure StatesList (item : Tree) (resourceType kindName : String) (names : List String) :
    Prop where
  /-- It gives the type of the resources. -/
  typed : GivesField fields "resourceType" (.text (some resourceType)) item
  /-- It gives the kind. -/
  ofKind : GivesField fields "constraintType" (.text (some kindName)) item
  /-- It gives the names, as a list. -/
  listing : GivesField fields "constraintValue" (treeOfTexts names) item

/-- The constraint that is read is the one that is stated, with the names as a printed list. -/
theorem StatesList.of_decode?
    {item : Tree}
    {resourceType kindName : String}
    {names : List String}
    (states : StatesList item resourceType kindName names)
    {room : Nat}
    {constraint : Constraint}
    (reads : decode? (Nested.mk item room) = some constraint) :
    ∃ id, constraint = { id, resourceType, kindName, value := typeList names } := by
  obtain ⟨given, isGiven, _, isType, isKind, isValue⟩ := decode?_eq_some_iff.1 reads
  have apart : (fields.map (·.name)).Nodup := by decide
  have isTypeGiven := lookup_of_givesField apart isGiven ⟨"resourceType", []⟩ rfl states.typed
  have isKindGiven := lookup_of_givesField apart isGiven ⟨"constraintType", []⟩ rfl states.ofKind
  have isValueGiven := lookup_of_givesField apart isGiven ⟨"constraintValue", []⟩ rfl states.listing
  simp only [Json.required, isTypeGiven, Option.bind_some, text?_nested_eq_some_iff,
    Tree.text.injEq, Option.some.injEq] at isType
  simp only [Json.required, isKindGiven, Option.bind_some, text?_nested_eq_some_iff,
    Tree.text.injEq, Option.some.injEq] at isKind
  simp only [Json.optional, isValueGiven] at isValue
  obtain ⟨id, _, _, _⟩ := constraint
  obtain rfl := isType
  obtain rfl := isKind
  obtain rfl := eq_typeList_of_valueText? isValue
  exact ⟨id, rfl⟩

end Constraint

/-! ## A set of constraints -/

namespace ConstraintSet

/-- A document lists constraints. -/
inductive ListsItems (items : List Tree) : Tree → Prop
  /-- As it is. -/
  | list : ListsItems items (.list items)
  /-- In an object. -/
  | object
      {members : List (Option String × Tree)}
      (isMember : (some "constraints", .list items) ∈ members) :
      ListsItems items (.object members)

/-- The constraints of a set are those that the document lists. -/
theorem getElem?_of_decode?
    {document : Tree}
    {room : Nat}
    {set : ConstraintSet}
    (reads : decode? (Nested.mk document room) = some set)
    {items : List Tree}
    (lists : ListsItems items document)
    {place : Nat}
    {item : Tree}
    (isItem : items[place]? = some item) :
    ∃ within constraint, Constraint.decode? (Nested.mk item within) = some constraint ∧
      set[place]? = some constraint := by
  cases lists with
  | list =>
      have isList : list? Constraint.decode? (Nested.mk (.list items) room) = some set := by
        cases room <;> exact reads
      exact ⟨_, getElem?_of_list? isList isItem⟩
  | @object members isMember =>
      rcases view_object_nested members room with ⟨named, isObject⟩ | unreadable
      · simp only [decode?, isObject] at reads
        obtain ⟨given, isGiven, isList⟩ := Option.bind_eq_some_iff.1 reads
        have isField : fields.find? (·.goesBy "constraints") = some ⟨"constraints", []⟩ := rfl
        have isHeld :=
          mem_of_fieldsOfMembers? isGiven (mem_of_view_object isObject isMember) isField
        rw [Json.required, (lookup_eq_some_iff_of_apart (nodup_of_fieldsOfMembers? isGiven)).2
          isHeld] at isList
        exact ⟨_, getElem?_of_list? isList isItem⟩
      · simp only [decode?, unreadable] at reads
        rw [list?, unreadable] at reads
        contradiction

theorem ofJson?_eq_some_iff
    {source : String}
    {set : ConstraintSet} :
    ofJson? source = some set ↔
      ∃ document, Tree.ofText? source = some document ∧
        (document.value? mostNested).isSome = true ∧
        decode? (Nested.mk document mostNested) = some set := by
  simp only [ofJson?, Option.bind_eq_bind, Option.bind_eq_some_iff, Option.guard_eq_some']
  simp

/-- A document states a constraint with a list of names as its value, at a place among those that
it lists. -/
inductive StatesList
    (document : Tree)
    (place : Nat)
    (resourceType kindName : String)
    (names : List String) : Prop
  /-- The constraint is the item at the place. -/
  | item
      {items : List Tree}
      {item : Tree}
      (lists : ListsItems items document)
      (isItem : items[place]? = some item)
      (states : Constraint.StatesList item resourceType kindName names)

/-- The constraint at the place is the one that is stated, with the names as a printed list. -/
theorem StatesList.of_ofJson?
    {source : String}
    {document : Tree}
    {set : ConstraintSet}
    (spells : Tree.ofText? source = some document)
    (reads : ofJson? source = some set)
    {place : Nat}
    {resourceType kindName : String}
    {names : List String}
    (states : StatesList document place resourceType kindName names) :
    ∃ id, set[place]? =
      some { id, resourceType, kindName, value := Constraint.typeList names } := by
  obtain ⟨lists, isItem, states⟩ := states
  obtain ⟨_, sameSpelling, _, isSet⟩ := ofJson?_eq_some_iff.1 reads
  obtain rfl := Option.some.inj (spells.symm.trans sameSpelling)
  obtain ⟨_, constraint, isRead, stands⟩ := getElem?_of_decode? isSet lists isItem
  obtain ⟨id, rfl⟩ := states.of_decode? isRead
  exact ⟨id, stands⟩

end ConstraintSet

/-! ## Printed documents -/

open Json.Reader

namespace Constraint

/-- A constraint as JSON, with a list of names as its value. -/
def listing (resourceType : String) (kind : ConstraintKind) (names : List String) : Value :=
  .object [
    ("resourceType", .text resourceType),
    ("constraintType", .text kind.name),
    ("constraintValue", .ofTexts names)]

/-- The constraint as it is written. -/
def listingTree (resourceType : String) (kind : ConstraintKind) (names : List String) : Tree :=
  .object [
    (some "resourceType", .text (some resourceType)),
    (some "constraintType", .text (some kind.name)),
    (some "constraintValue", treeOfTexts names)]

variable (resourceType : String) (kind : ConstraintKind) (names : List String)

theorem readsBack_listing :
    ReadsBack (listing resourceType kind names) (listingTree resourceType kind names) := by
  apply readsBack_object
  exact .cons ⟨rfl, readsBack_text _⟩ <| .cons ⟨rfl, readsBack_text _⟩ <|
    .cons ⟨rfl, readsBack_ofTexts names⟩ .nil

theorem decode?_listingTree
    (room : Nat) :
    decode? (Nested.mk (listingTree resourceType kind names) (room + 2)) =
      some (.ofKind resourceType kind (typeList names)) :=
  decode?_eq_some_iff.2 ⟨_, rfl, rfl, rfl, rfl, valueText?_treeOfTexts names room⟩

/-- All of it has content. -/
theorem exists_value?_listingTree
    (room : Nat) :
    ∃ value, (listingTree resourceType kind names).value? (room + 2) = some value := by
  have isValue : (treeOfTexts names).value? (room + 1) = some (.ofTexts names) :=
    value?_eq_ofTexts_iff.2 rfl
  simp [listingTree, Tree.value?, Tree.members?, isValue]

end Constraint

namespace ConstraintSet

/-- A document with a constraint, whose value is a list of names. -/
def listing (resourceType : String) (kind : ConstraintKind) (names : List String) : Value :=
  .object [("constraints", .list [Constraint.listing resourceType kind names])]

/-- The document as it is written. -/
def listingTree (resourceType : String) (kind : ConstraintKind) (names : List String) : Tree :=
  .object [(some "constraints", .list [Constraint.listingTree resourceType kind names])]

variable (resourceType : String) (kind : ConstraintKind) (names : List String)

theorem readsBack_listing :
    ReadsBack (listing resourceType kind names) (listingTree resourceType kind names) := by
  apply readsBack_object
  exact .cons ⟨rfl, readsBack_list
    (.cons (Constraint.readsBack_listing resourceType kind names) .nil)⟩ .nil

/-- Printed, the document is read as the constraint with the printed list. -/
theorem ofJson?_compact_listing :
    ofJson? (listing resourceType kind names).compact =
      some [.ofKind resourceType kind (Constraint.typeList names)] := by
  have isConstraint := Constraint.decode?_listingTree resourceType kind names 123
  have isList : list? Constraint.decode?
      (Nested.mk (.list [Constraint.listingTree resourceType kind names]) 126) =
        some [.ofKind resourceType kind (Constraint.typeList names)] := by
    simp only [list?, view_list_nested _ 125, List.map_cons, List.map_nil, List.mapM_cons,
      List.mapM_nil, isConstraint]
    rfl
  obtain ⟨value, isValue⟩ := Constraint.exists_value?_listingTree resourceType kind names 123
  rw [ofJson?_eq_some_iff]
  refine ⟨_, (readsBack_listing resourceType kind names).ofText?_compact, ?_, isList⟩
  simp [listingTree, Tree.value?, Tree.members?, Tree.items?, mostNested, isValue]

end ConstraintSet

end CloudPlan
