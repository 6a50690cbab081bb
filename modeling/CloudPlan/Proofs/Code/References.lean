import CloudPlan.Code.Block
import Mathlib.Data.Option.Basic

/-!
# What blocks refer to

A block is known by its heading: its type and its labels.  References stand in the
values of attributes, at any depth, and go to the block of a heading unless they are
raw expressions.
-/

namespace CloudPlan.Code

/-- What a block is known by: its type and its labels. -/
abbrev Heading := String × List String

/-- The heading of the block that a reference goes to; a raw expression goes to none. -/
def Reference.heading? : Reference → Option Heading
  | ofResource kind name _ => some ("resource", [kind, name])
  | ofVariable name => some ("variable", [name])
  | raw _ => none

/-- A reference leads to a block of one of the headings unless it is a raw expression. -/
def Reference.LeadsInto (headings : List Heading) (reference : Reference) : Prop :=
  ∀ heading, reference.heading? = some heading → heading ∈ headings

/-- A reference stands in a value. -/
inductive AttrValue.Mentions : AttrValue → Reference → Prop
  | reference (target : Reference) : Mentions (.reference target) target
  | item {items : List AttrValue} {item : AttrValue} {target : Reference} :
      item ∈ items → Mentions item target → Mentions (.list items) target
  | entry {entries : Attributes} {entry : String × AttrValue} {target : Reference} :
      entry ∈ entries → Mentions entry.2 target → Mentions (.map entries) target

/-- A reference stands in a block or in one that is nested in it. -/
inductive Block.Mentions : Block → Reference → Prop
  | attribute {block : Block} {entry : String × AttrValue} {target : Reference} :
      entry ∈ block.attributes → entry.2.Mentions target → Mentions block target
  | nested {block inner : Block} {target : Reference} :
      inner ∈ block.blocks → Mentions inner target → Mentions block target

/-- All references in a value are allowed. -/
def AttrValue.MentionsOnly (allowed : Reference → Prop) (value : AttrValue) : Prop :=
  ∀ target, value.Mentions target → allowed target

/-- All references in attributes are allowed. -/
def Attributes.MentionsOnly (allowed : Reference → Prop) (attributes : Attributes) : Prop :=
  ∀ entry ∈ attributes, entry.2.MentionsOnly allowed

/-- All references in a block are allowed. -/
def Block.MentionsOnly (allowed : Reference → Prop) (block : Block) : Prop :=
  ∀ target, block.Mentions target → allowed target

variable {allowed : Reference → Prop}

/-! ## Values -/

namespace AttrValue

@[simp] theorem mentionsOnly_text {value : String} : (text value).MentionsOnly allowed := by
  rintro target ⟨⟩

@[simp] theorem mentionsOnly_number {value : Json.Number} :
    (number value).MentionsOnly allowed := by
  rintro target ⟨⟩

@[simp] theorem mentionsOnly_ofNat {value : Nat} : (ofNat value).MentionsOnly allowed :=
  mentionsOnly_number

@[simp] theorem mentionsOnly_bool {value : Bool} : (bool value).MentionsOnly allowed := by
  rintro target ⟨⟩

@[simp] theorem mentionsOnly_reference_iff (target : Reference) :
    (reference target).MentionsOnly allowed ↔ allowed target := by
  constructor
  · intro only
    exact only target (.reference target)
  · rintro isAllowed _ ⟨⟩
    exact isAllowed

@[simp] theorem mentionsOnly_list_iff (items : List AttrValue) :
    (list items).MentionsOnly allowed ↔ ∀ item ∈ items, item.MentionsOnly allowed := by
  constructor
  · intro only item member target mentions
    exact only target (.item member mentions)
  · rintro only target (_ | ⟨member, mentions⟩)
    exact only _ member target mentions

@[simp] theorem mentionsOnly_map_iff (entries : Attributes) :
    (map entries).MentionsOnly allowed ↔ entries.MentionsOnly allowed := by
  constructor
  · intro only entry member target mentions
    exact only target (.entry member mentions)
  · rintro only target (_ | _ | ⟨member, mentions⟩)
    exact only _ member target mentions

mutual

/-- Nothing that comes from JSON is a reference. -/
theorem mentionsOnly_of_ofJson?
    {value : Json.Value}
    {made : AttrValue}
    (isMade : ofJson? value = some made) :
    made.MentionsOnly allowed := by
  match value with
  | .null => cases isMade
  | .bool value =>
      cases isMade
      exact mentionsOnly_bool
  | .number value =>
      cases isMade
      exact mentionsOnly_number
  | .text value =>
      cases isMade
      exact mentionsOnly_text
  | .list items =>
      cases isMade
      exact (mentionsOnly_list_iff _).2 (mentionsOnly_ofJsonItems items)
  | .object members =>
      cases isMade
      exact (mentionsOnly_map_iff _).2 (mentionsOnly_ofJsonMembers members)

theorem mentionsOnly_ofJsonItems (items : List Json.Value) :
    ∀ item ∈ ofJsonItems items, item.MentionsOnly allowed := by
  match items with
  | [] => simp [ofJsonItems]
  | first :: rest =>
      intro item member
      rw [ofJsonItems, List.mem_append, Option.mem_toList] at member
      rcases member with isFirst | isLater
      · exact mentionsOnly_of_ofJson? isFirst
      · exact mentionsOnly_ofJsonItems rest item isLater

theorem mentionsOnly_ofJsonMembers (members : List (String × Json.Value)) :
    (ofJsonMembers members).MentionsOnly allowed := by
  match members with
  | [] => simp [ofJsonMembers, Attributes.MentionsOnly]
  | (key, first) :: rest =>
      intro entry member
      rw [ofJsonMembers, List.mem_append, Option.mem_toList, Option.map_eq_some_iff] at member
      rcases member with ⟨made, isMade, rfl⟩ | isLater
      · exact mentionsOnly_of_ofJson? isMade
      · exact mentionsOnly_ofJsonMembers rest entry isLater

end

end AttrValue

/-! ## Attributes -/

namespace Attributes

theorem mem_of_mem_set
    {key : String}
    {value : AttrValue}
    {attributes : Attributes}
    {entry : String × AttrValue}
    (member : entry ∈ set key value attributes) :
    entry = (key, value) ∨ entry ∈ attributes := by
  induction attributes with
  | nil => exact Or.inl (List.mem_singleton.1 member)
  | cons first rest inductionHypothesis =>
      rw [set] at member
      split at member
      · exact (List.mem_cons.1 member).imp_right (List.mem_cons_of_mem _)
      · rcases List.mem_cons.1 member with rfl | isLater
        · exact Or.inr List.mem_cons_self
        · exact (inductionHypothesis isLater).imp_right (List.mem_cons_of_mem _)

theorem mem_set_self
    (key : String)
    (value : AttrValue)
    (attributes : Attributes) :
    (key, value) ∈ set key value attributes := by
  induction attributes with
  | nil => exact List.mem_cons_self
  | cons first rest inductionHypothesis =>
      rw [set]
      split
      · exact List.mem_cons_self
      · exact List.mem_cons_of_mem _ inductionHypothesis

/-- What is set under one key leaves what is under the others. -/
theorem mem_set_of_ne
    {key : String}
    {value : AttrValue}
    {attributes : Attributes}
    {entry : String × AttrValue}
    (different : entry.1 ≠ key)
    (member : entry ∈ attributes) :
    entry ∈ set key value attributes := by
  induction attributes with
  | nil => contradiction
  | cons first rest inductionHypothesis =>
      rw [set]
      rcases List.mem_cons.1 member with rfl | isLater
      · rw [if_neg different]
        exact List.mem_cons_self
      · split
        · exact List.mem_cons_of_mem _ isLater
        · exact List.mem_cons_of_mem _ (inductionHypothesis isLater)

theorem MentionsOnly.set
    {attributes : Attributes}
    (only : attributes.MentionsOnly allowed)
    (key : String)
    {value : AttrValue}
    (valueOnly : value.MentionsOnly allowed) :
    (attributes.set key value).MentionsOnly allowed := by
  intro entry member
  rcases mem_of_mem_set member with rfl | before
  · exact valueOnly
  · exact only entry before

theorem MentionsOnly.ofList
    {pairs : List (String × AttrValue)}
    (only : MentionsOnly allowed pairs) :
    (Attributes.ofList pairs).MentionsOnly allowed := by
  have settled (attributes : Attributes) (before : attributes.MentionsOnly allowed) :
      (pairs.foldl (fun attributes pair => Attributes.set pair.1 pair.2 attributes)
        attributes).MentionsOnly allowed := by
    induction pairs generalizing attributes with
    | nil => exact before
    | cons pair rest inductionHypothesis =>
        obtain ⟨first, later⟩ := List.forall_mem_cons.1 only
        exact inductionHypothesis later _ (before.set pair.1 first)
  exact settled [] (by simp [MentionsOnly])

end Attributes

/-! ## Blocks -/

namespace Block

/-- The type of a block with its labels. -/
def heading (block : Block) : Heading :=
  (block.type, block.labels)

@[simp] theorem heading_resource (kind name : String) :
    (resource kind name).heading = ("resource", [kind, name]) := rfl

@[simp] theorem heading_ofVariable (name : String) :
    (ofVariable name).heading = ("variable", [name]) := rfl

@[simp] theorem heading_output (name : String) :
    (output name).heading = ("output", [name]) := rfl

@[simp] theorem heading_attr (block : Block) (key : String) (value : AttrValue) :
    (block.attr key value).heading = block.heading := rfl

@[simp] theorem heading_attr? (block : Block) (key : String) (value : Option AttrValue) :
    (block.attr? key value).heading = block.heading := by
  cases value <;> rfl

@[simp] theorem heading_textAttr (block : Block) (key value : String) :
    (block.textAttr key value).heading = block.heading := rfl

@[simp] theorem heading_nest (block inner : Block) :
    (block.nest inner).heading = block.heading := rfl

theorem mentionsOnly_iff (block : Block) :
    block.MentionsOnly allowed ↔
      block.attributes.MentionsOnly allowed ∧
        ∀ inner ∈ block.blocks, inner.MentionsOnly allowed := by
  constructor
  · intro only
    constructor
    · intro entry member target mentions
      exact only target (.attribute member mentions)
    · intro inner member target mentions
      exact only target (.nested member mentions)
  · rintro ⟨attributes, blocks⟩ target (⟨member, mentions⟩ | ⟨member, mentions⟩)
    · exact attributes _ member target mentions
    · exact blocks _ member target mentions

/-- A block of a heading alone mentions nothing. -/
@[simp] theorem mentionsOnly_bare {type : String} {labels : List String} :
    MentionsOnly allowed { type, labels } := by
  rw [mentionsOnly_iff]
  simp [Attributes.MentionsOnly]

@[simp] theorem mentionsOnly_resource {kind name : String} :
    (resource kind name).MentionsOnly allowed :=
  mentionsOnly_bare

@[simp] theorem mentionsOnly_ofVariable {name : String} :
    (ofVariable name).MentionsOnly allowed :=
  mentionsOnly_bare

@[simp] theorem mentionsOnly_output {name : String} :
    (output name).MentionsOnly allowed :=
  mentionsOnly_bare

variable {block : Block}

theorem MentionsOnly.attr
    (only : block.MentionsOnly allowed)
    {key : String}
    {value : AttrValue}
    (valueOnly : value.MentionsOnly allowed) :
    (block.attr key value).MentionsOnly allowed := by
  rw [mentionsOnly_iff] at only ⊢
  exact ⟨only.1.set key valueOnly, only.2⟩

theorem MentionsOnly.attr?
    (only : block.MentionsOnly allowed)
    {key : String}
    {value : Option AttrValue}
    (valueOnly : ∀ given ∈ value, given.MentionsOnly allowed) :
    (block.attr? key value).MentionsOnly allowed := by
  cases value with
  | none => exact only
  | some given => exact only.attr (valueOnly given rfl)

theorem MentionsOnly.attr?_map
    (only : block.MentionsOnly allowed)
    {key : String}
    {α : Type}
    {convert : α → AttrValue}
    {value : Option α}
    (convertedOnly : ∀ {given}, (convert given).MentionsOnly allowed) :
    (block.attr? key (value.map convert)).MentionsOnly allowed := by
  apply only.attr?
  intro converted member
  obtain ⟨given, _, rfl⟩ := Option.map_eq_some_iff.1 member
  exact convertedOnly

theorem MentionsOnly.textAttr
    (only : block.MentionsOnly allowed)
    {key value : String} :
    (block.textAttr key value).MentionsOnly allowed :=
  only.attr AttrValue.mentionsOnly_text

theorem MentionsOnly.nest
    (only : block.MentionsOnly allowed)
    {inner : Block}
    (innerOnly : inner.MentionsOnly allowed) :
    (block.nest inner).MentionsOnly allowed := by
  rw [mentionsOnly_iff] at only ⊢
  refine ⟨only.1, ?_⟩
  intro nested member
  rcases List.mem_append.1 member with before | last
  · exact only.2 nested before
  · rw [List.mem_singleton.1 last]
    exact innerOnly

@[simp] theorem heading_foldl_nest
    {α : Type}
    (items : List α)
    (inner : α → Block)
    (block : Block) :
    (items.foldl (fun block item => block.nest (inner item)) block).heading = block.heading := by
  induction items generalizing block with
  | nil => rfl
  | cons item rest inductionHypothesis =>
      rw [List.foldl_cons, inductionHypothesis, heading_nest]

theorem MentionsOnly.foldl_nest
    (only : block.MentionsOnly allowed)
    {α : Type}
    {items : List α}
    {inner : α → Block}
    (innerOnly : ∀ {item}, (inner item).MentionsOnly allowed) :
    (items.foldl (fun block item => block.nest (inner item)) block).MentionsOnly allowed := by
  induction items generalizing block with
  | nil => exact only
  | cons item rest inductionHypothesis => exact inductionHypothesis (only.nest innerOnly)

end Block

end CloudPlan.Code
