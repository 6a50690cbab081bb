import CloudPlan.Proofs.Expression.Atom

/-!
# What is read is written

Every tree that is read from the front of a text is written there.
-/

namespace CloudPlan.Expression

variable {text rest : List Char} {tree : Tree}

/-! ## Levels -/

/-- The level of an operator. -/
def BinaryOp.level : BinaryOp → Level
  | coalesce => .coalesce
  | or => .or
  | and => .and
  | equal | notEqual | less | lessEqual | greater | greaterEqual => .comparison
  | add | subtract => .sum
  | multiply | divide | remainder => .term

theorem mem_operators_iff (op : BinaryOp) (level : Level) :
    op ∈ level.operators ↔ level = op.level := by
  cases op <;> cases level <;> decide

theorem BinaryOp.rank_level (op : BinaryOp) : op.level.rank = op.looseness := by
  cases op <;> rfl

namespace Level

/-- The loosest operator that a left operand on a level may have without parentheses. -/
def leftBound (level : Level) : Nat :=
  if level.chains then level.rank else level.rank - 1

theorem rank_sub_one_le_leftBound (level : Level) : level.rank - 1 ≤ level.leftBound := by
  cases level <;> decide

theorem leftBound_le_rank (level : Level) : level.leftBound ≤ level.rank := by
  cases level <;> decide

theorem rank_le_leftBound
    (level : Level)
    (chains : level.chains = true) :
    level.rank ≤ level.leftBound := by
  rw [leftBound, if_pos chains]

end Level

theorem BinaryOp.leftBound_level (op : BinaryOp) : op.level.leftBound = op.leftBound := by
  cases op <;> rfl

/-- What may stand in parentheses only where little is allowed may stand where more is. -/
theorem Tree.WrittenAs.mono
    {bound larger : Nat}
    (written : tree.WrittenAs bound text)
    (le : bound ≤ larger) :
    tree.WrittenAs larger text := by
  cases written with
  | atom blanks atom => exact .atom blanks atom
  | unary blanks operand => exact .unary blanks operand
  | parenthesized before inside after => exact .parenthesized before inside after
  | binary allowed left blanks right => exact .binary (allowed.trans le) left blanks right

/-- On the level of its operator an operation is written with both of its operands. -/
theorem Tree.WrittenAs.link
    {op : BinaryOp}
    {left right : Tree}
    {leftText before rightText : List Char}
    (leftWritten : left.WrittenAs op.level.leftBound leftText)
    (blanks : IsBlanks before)
    (rightWritten : right.WrittenAs (op.level.rank - 1) rightText) :
    (Tree.binary op left right).WrittenAs op.level.rank
      (leftText ++ (before ++ (op.symbol.toList ++ rightText))) := by
  rw [op.leftBound_level] at leftWritten
  rw [op.rank_level] at rightWritten ⊢
  exact .binary le_rfl leftWritten blanks rightWritten

namespace Reader

theorem of_operator?
    {level : Level}
    {op : BinaryOp}
    (found : operator? level text = some (op, rest)) :
    level = op.level ∧ text = op.symbol.toList ++ rest := by
  obtain ⟨candidate, ofLevel, mapped⟩ := List.exists_of_findSome?_eq_some found
  obtain ⟨after, stripped, same⟩ := Option.map_eq_some_iff.1 mapped
  obtain ⟨rfl, rfl⟩ := Prod.mk.inj same
  exact ⟨(mem_operators_iff _ _).1 ofLevel, (append_textAfter? stripped).symm⟩

mutual

theorem writtenAs_of_operand
    {text rest : List Char}
    {tree : Tree}
    (read : success (operand text) = some (tree, rest)) :
    ∃ written, tree.WrittenAs 0 written ∧ text = written ++ rest := by
  obtain ⟨before, blanks, text_eq⟩ := exists_blanks_append_skip text
  have ofUnary : ∀ (op : UnaryOp) (more : List Char), skip text = op.symbol :: more →
      (success (operand more)).map (fun inner => (Tree.unary op inner.1, inner.2)) =
        some (tree, rest) →
      ∃ written, tree.WrittenAs 0 written ∧ text = written ++ rest := by
    intro op more front read
    have shorter := length_lt_of_skip_eq_cons front
    obtain ⟨⟨inner, after⟩, readInner, joined⟩ := Option.map_eq_some_iff.1 read
    obtain ⟨rfl, rfl⟩ := Prod.mk.inj joined
    obtain ⟨written, innerWritten, rfl⟩ := writtenAs_of_operand readInner
    have whole : (Tree.unary op inner).WrittenAs 0 _ := .unary blanks innerWritten
    refine ⟨_, whole, ?_⟩
    rw [text_eq, front, List.append_assoc, List.cons_append]
  rw [success_operand] at read
  split at read
  next more front => exact ofUnary .not more front read
  next more front => exact ofUnary .negate more front read
  next more front =>
    obtain ⟨⟨inner, after⟩, readInner, closed⟩ := Option.bind_eq_some_iff.1 read
    have shorter := length_lt_of_skip_eq_cons front
    obtain ⟨written, innerWritten, more_eq⟩ := writtenAs_of_chain readInner
    obtain ⟨gap, gapBlanks, after_eq⟩ := exists_blanks_append_skip after
    split at closed
    next final close =>
      obtain ⟨rfl, rfl⟩ := Prod.mk.inj (Option.some.inj closed)
      refine ⟨_, .parenthesized blanks innerWritten gapBlanks, ?_⟩
      calc text = before ++ '(' :: more := by rw [← front]; exact text_eq
        _ = before ++ '(' :: (written ++ (gap ++ ')' :: final)) := by
          rw [more_eq, ← close, ← after_eq]
        _ = before ++ '(' :: (written ++ (gap ++ [')'])) ++ final := by
          simp only [List.append_assoc, List.cons_append, List.nil_append]
    next => contradiction
  next =>
    obtain ⟨written, atomWritten, front_eq⟩ := atomWrittenAs_of_atom read
    refine ⟨_, .atom blanks atomWritten, ?_⟩
    rw [List.append_assoc, ← front_eq]
    exact text_eq
termination_by (text.length, 0)

theorem writtenAs_of_tighter
    {level : Level}
    {text rest : List Char}
    {tree : Tree}
    (read : success (tighter level text) = some (tree, rest)) :
    ∃ written, tree.WrittenAs (level.rank - 1) written ∧ text = written ++ rest := by
  rw [success_tighter] at read
  split at read
  next inner isTighter =>
    have tighter := Level.rank_tighter isTighter
    obtain ⟨written, innerWritten, text_eq⟩ := writtenAs_of_chain read
    exact ⟨written, innerWritten.mono (Nat.le_sub_one_of_lt tighter), text_eq⟩
  next =>
    obtain ⟨written, operandWritten, text_eq⟩ := writtenAs_of_operand read
    exact ⟨written, operandWritten.mono (Nat.zero_le _), text_eq⟩
termination_by (text.length, 2 * level.rank)
decreasing_by
  · exact Prod.Lex.right _ (by omega)
  · exact Prod.Lex.right _ (by have := level.rank_pos; omega)

theorem writtenAs_of_chain
    {level : Level}
    {text rest : List Char}
    {tree : Tree}
    (read : success (chain level text) = some (tree, rest)) :
    ∃ written, tree.WrittenAs level.rank written ∧ text = written ++ rest := by
  rw [success_chain] at read
  obtain ⟨⟨first, middle⟩, readFirst, extended⟩ := Option.bind_eq_some_iff.1 read
  have shorter := length_success readFirst
  obtain ⟨firstText, firstWritten, rfl⟩ := writtenAs_of_tighter readFirst
  obtain ⟨written, treeWritten, rfl⟩ :=
    writtenAs_of_extension (firstWritten.mono level.rank_sub_one_le_leftBound) extended
  exact ⟨firstText ++ written, treeWritten, (List.append_assoc _ _ _).symm⟩
termination_by (text.length, 2 * level.rank + 1)

theorem writtenAs_of_extension
    {level : Level}
    {left : Tree}
    {leftText text rest : List Char}
    {tree : Tree}
    (leftWritten : left.WrittenAs level.leftBound leftText)
    (read : extension level left text = some (tree, rest)) :
    ∃ written, tree.WrittenAs level.rank (leftText ++ written) ∧ text = written ++ rest := by
  rw [extension_eq] at read
  split at read
  next =>
    obtain ⟨rfl, rfl⟩ := Prod.mk.inj (Option.some.inj read)
    refine ⟨[], ?_, rfl⟩
    rw [List.append_nil]
    exact leftWritten.mono level.leftBound_le_rank
  next op afterOp link =>
    obtain ⟨⟨right, middle⟩, readRight, joined⟩ := Option.bind_eq_some_iff.1 read
    have shorterOp := (length_operator? link).trans_le (length_skip_le text)
    have shorter := (length_success readRight).trans shorterOp
    obtain ⟨before, blanks, text_eq⟩ := exists_blanks_append_skip text
    obtain ⟨rfl, skip_eq⟩ := of_operator? link
    obtain ⟨rightText, rightWritten, afterOp_eq⟩ := writtenAs_of_tighter readRight
    have joinedWritten := leftWritten.link blanks rightWritten
    have text_parts : text = before ++ (op.symbol.toList ++ rightText) ++ middle := by
      rw [text_eq, skip_eq, afterOp_eq]
      simp only [List.append_assoc]
    split_ifs at joined with chains
    · obtain ⟨written, treeWritten, middle_eq⟩ :=
        writtenAs_of_extension (joinedWritten.mono (op.level.rank_le_leftBound chains)) joined
      refine ⟨before ++ (op.symbol.toList ++ rightText) ++ written, ?_, ?_⟩
      · rw [← List.append_assoc]
        exact treeWritten
      · rw [List.append_assoc, ← middle_eq]
        exact text_parts
    · obtain ⟨rfl, rfl⟩ := Prod.mk.inj (Option.some.inj joined)
      exact ⟨_, joinedWritten, text_parts⟩
termination_by (text.length, 0)

end

end Reader

end CloudPlan.Expression
