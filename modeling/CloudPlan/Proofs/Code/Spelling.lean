import CloudPlan.Json.Printer
import CloudPlan.Proofs.Code.References

/-!
# Blocks as they are written

Numbers that are written alike cannot be told apart, so they are replaced by the expressions
that they are written as.  Values and blocks are literal when they mention nothing outside
them; nothing else in them turns into an expression, so nothing but such numbers is identified.
-/

namespace CloudPlan.Code

/-! ## Literal values -/

/-- There are no references in a value. -/
abbrev AttrValue.IsLiteral (value : AttrValue) : Prop :=
  value.MentionsOnly fun _ => False

/-- There are no references in attributes. -/
abbrev Attributes.IsLiteral (attributes : Attributes) : Prop :=
  attributes.MentionsOnly fun _ => False

/-- There are no references in a block. -/
abbrev Block.IsLiteral (block : Block) : Prop :=
  block.MentionsOnly fun _ => False

/-! ## Numbers as they are written -/

mutual

/-- A value with expressions for its numbers, as these are written. -/
def AttrValue.spelled : AttrValue → AttrValue
  | .text value => .text value
  | .number value => .reference (.raw value.write)
  | .bool value => .bool value
  | .list items => .list (spelledItems items)
  | .map entries => .map (spelledEntries entries)
  | .reference target => .reference target

/-- Values with expressions for their numbers. -/
def AttrValue.spelledItems : List AttrValue → List AttrValue
  | [] => []
  | item :: rest => item.spelled :: spelledItems rest

/-- Keys with their values, with expressions for the numbers. -/
def AttrValue.spelledEntries : List (String × AttrValue) → List (String × AttrValue)
  | [] => []
  | (key, value) :: rest => (key, value.spelled) :: spelledEntries rest

end

mutual

/-- A block with expressions for the numbers in it, as these are written. -/
def Block.spelled : Block → Block
  | { type, labels, attributes, blocks } =>
    { type, labels, attributes := AttrValue.spelledEntries attributes
      blocks := spelledBlocks blocks }

/-- Blocks with expressions for the numbers in them. -/
def Block.spelledBlocks : List Block → List Block
  | [] => []
  | block :: rest => block.spelled :: spelledBlocks rest

end

theorem Block.spelledBlocks_eq_map (blocks : List Block) :
    spelledBlocks blocks = blocks.map spelled := by
  induction blocks with
  | nil => rw [spelledBlocks, List.map_nil]
  | cons block rest inductionHypothesis =>
      rw [spelledBlocks, List.map_cons, inductionHypothesis]

theorem AttrValue.spelledEntries_eq_nil_iff (entries : List (String × AttrValue)) :
    spelledEntries entries = [] ↔ entries = [] := by
  cases entries <;> simp [spelledEntries]

theorem Block.spelledBlocks_eq_nil_iff (blocks : List Block) :
    spelledBlocks blocks = [] ↔ blocks = [] := by
  rw [spelledBlocks_eq_map, List.map_eq_nil_iff]

end CloudPlan.Code
