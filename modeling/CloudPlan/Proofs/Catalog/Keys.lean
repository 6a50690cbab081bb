import CloudPlan.Catalog.HiddenRule
import CloudPlan.Proofs.Outcome

/-!
# Keys of rules

A rule looks at the metadata of a resource through the fields that its expressions name.  Each
field is looked up under one key of the metadata, and what is below that key is part of the
value.  So a rule cannot tell metadata apart that agree on its keys.
-/

namespace CloudPlan

namespace Expression

variable {metadata other : Json.Members}

/-- The key of a field: the first name, or the second one where the first is `metadata`. -/
def keyOf (first : List Char) : List (List Char) → String
  | next :: _ =>
    if first = ['m', 'e', 't', 'a', 'd', 'a', 't', 'a'] then String.ofList next
    else String.ofList first
  | [] => String.ofList first

/-- The keys of the fields in an expression. -/
def Tree.keys : Tree → List String
  | literal _ => []
  | field first rest => [keyOf first rest]
  | unary _ operand => operand.keys
  | binary _ left right => left.keys ++ right.keys

/-- The value of a field is what is found under its key. -/
theorem lookup_congr
    {first : List Char}
    {rest : List (List Char)}
    (agree : metadata.lookup (keyOf first rest) = other.lookup (keyOf first rest)) :
    lookup metadata first rest = lookup other first rest := by
  cases rest with
  | nil =>
      rw [keyOf] at agree
      rw [lookup, lookup, follow, follow, agree]
  | cons next rest =>
      rw [keyOf] at agree
      rw [lookup, lookup]
      split_ifs at agree ⊢ with isPrefixed
      · rw [follow, follow, agree]
      · rw [follow, follow, agree]

/-- An expression has one value, or one fault, over metadata that agree on its keys. -/
theorem Tree.evaluate_congr
    {tree : Tree}
    (agree : ∀ key ∈ tree.keys, metadata.lookup key = other.lookup key) :
    tree.evaluate metadata = tree.evaluate other := by
  induction tree with
  | literal value => rfl
  | field first rest =>
      rw [evaluate, evaluate, lookup_congr (agree _ List.mem_cons_self)]
  | unary op operand inductionHypothesis =>
      cases op with
      | not => rw [evaluate, evaluate, inductionHypothesis agree]
      | negate => rw [evaluate, evaluate, inductionHypothesis agree]
  | binary op left right leftHypothesis rightHypothesis =>
      rw [keys, List.forall_mem_append] at agree
      -- The right operand agrees whether or not the left one decides.
      rw [evaluate, evaluate, leftHypothesis agree.1, rightHypothesis agree.2]

/-- The keys of an expression in blanks; a text that is none names no fields. -/
def keysOf (source : String) : List String :=
  match parse (Text.trim source) with
  | .ok expression => expression.tree.keys
  | .error _ => []

/-- What a text spells has one value over metadata that agree on the keys of the text. -/
theorem evaluate_congr_of_parse
    {source : String}
    (agree : ∀ key ∈ keysOf source, metadata.lookup key = other.lookup key)
    {expression : Expression}
    (reads : parse (Text.trim source) = .ok expression) :
    expression.evaluate metadata = expression.evaluate other := by
  rw [keysOf, reads] at agree
  rw [evaluate, evaluate, Tree.evaluate_congr agree]

end Expression

namespace HiddenRule

open Expression

variable {rule : HiddenRule} {metadata other : Json.Members}

/-- The keys that the condition and the quantity of a rule look up. -/
def keys (rule : HiddenRule) : List String :=
  keysOf (rule.condition.getD "") ++ keysOf rule.quantity

/-- A rule applies to both or to neither of two resources that agree on its keys. -/
theorem appliesTo_congr
    (agree : ∀ key ∈ rule.keys, metadata.lookup key = other.lookup key) :
    rule.appliesTo metadata = rule.appliesTo other := by
  rw [keys, List.forall_mem_append] at agree
  cases reads : parse (Text.trim (rule.condition.getD "")) with
  | error error => simp only [appliesTo, reads, error_bind]
  | ok expression =>
      have same := evaluate_congr_of_parse agree.1 reads
      simp only [appliesTo, reads, ok_bind, evaluateBool, same]

/-- A rule asks for the same number of resources for both of them. -/
theorem count_congr
    (agree : ∀ key ∈ rule.keys, metadata.lookup key = other.lookup key) :
    rule.count metadata = rule.count other := by
  rw [keys, List.forall_mem_append] at agree
  cases reads : parse (Text.trim rule.quantity) with
  | error error => simp only [count, reads, error_bind]
  | ok expression =>
      have same := evaluate_congr_of_parse agree.2 reads
      simp only [count, reads, ok_bind, evaluateQuantity, same]

end HiddenRule

end CloudPlan
