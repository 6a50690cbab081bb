import CloudPlan.Proofs.Expression.Failing
import CloudPlan.Proofs.Expression.Grammar
import Mathlib.Data.List.Induction

/-!
# What is missing at a fault

Where a text stops being an expression, what stands in front of the fault is the beginning of
one: it becomes an expression with what is missing at the fault and the parentheses that are
still open there.  Every reader keeps this, since what waits for an operand, an operator or a
parenthesis is written in full once the operand is.
-/

namespace CloudPlan.Expression

/-- What makes an expression of the text in front of a fault: what is missing at the fault, and
behind it closing parentheses.  In front of what merely trails nothing is missing. -/
inductive Fault.MendedBy : Fault → List Char → Prop
  | operand (closing : Nat) : MendedBy operand ('0' :: List.replicate closing ')')
  | identifier (closing : Nat) : MendedBy identifier ('a' :: List.replicate closing ')')
  | stringLiteral {quote : Char} (closing : Nat) :
      (quote = '"' ∨ quote = '\'') →
      MendedBy stringLiteral (quote :: List.replicate closing ')')
  | closingParenthesis (closing : Nat) :
      MendedBy closingParenthesis (List.replicate (closing + 1) ')')
  | trailingInput : MendedBy trailingInput []

/-- What mends a fault in parentheses mends it outside them, with one parenthesis more. -/
theorem Fault.MendedBy.close
    {fault : Fault}
    {completion : List Char}
    (mended : fault.MendedBy completion)
    (missing : fault ≠ .trailingInput) :
    fault.MendedBy (completion ++ [')']) := by
  cases mended with
  | operand closing =>
      rw [List.cons_append, ← List.replicate_succ']
      exact .operand (closing + 1)
  | identifier closing =>
      rw [List.cons_append, ← List.replicate_succ']
      exact .identifier (closing + 1)
  | stringLiteral closing isQuote =>
      rw [List.cons_append, ← List.replicate_succ']
      exact .stringLiteral (closing + 1) isQuote
  | closingParenthesis closing =>
      rw [← List.replicate_succ']
      exact .closingParenthesis (closing + 1)
  | trailingInput => exact absurd rfl missing

/--
A text that follows a front can be mended at a failure: from the front on up to the failure it
is the beginning of a written tree, in a place where operators up to a looseness may stand.
-/
structure Mendable (bound : Nat) (front text : List Char) (failure : Failure) : Prop where
  /-- Something is missing at the failure. -/
  missing : failure.fault ≠ .trailingInput
  /-- What is missing completes a tree. -/
  completes : ∃ read completion tree, text = read ++ failure.rest ∧
    failure.fault.MendedBy completion ∧ Tree.WrittenAs bound tree (front ++ (read ++ completion))

namespace Mendable

variable {bound : Nat} {front before text : List Char} {failure : Failure}

theorem mono
    {larger : Nat}
    (mendable : Mendable bound front text failure)
    (le : bound ≤ larger) :
    Mendable larger front text failure := by
  obtain ⟨missing, read, completion, tree, text_eq, mended, written⟩ := mendable
  exact ⟨missing, read, completion, tree, text_eq, mended, written.mono le⟩

/-- What was read as the end of the front may be read as the beginning of the text. -/
theorem of_append
    (mendable : Mendable bound (front ++ before) text failure) :
    Mendable bound front (before ++ text) failure := by
  obtain ⟨missing, read, completion, tree, rfl, mended, written⟩ := mendable
  refine ⟨missing, before ++ read, completion, tree, ?_, mended, ?_⟩
  · rw [List.append_assoc]
  · rw [List.append_assoc] at written ⊢
    exact written

theorem unary
    (blanks : IsBlanks before)
    (op : UnaryOp)
    (mendable : Mendable 0 [] text failure) :
    Mendable bound [] (before ++ op.symbol :: text) failure := by
  obtain ⟨missing, read, completion, tree, rfl, mended, written⟩ := mendable
  refine ⟨missing, before ++ op.symbol :: read, completion, .unary op tree, ?_, mended, ?_⟩
  · rw [List.append_assoc, List.cons_append]
  · rw [List.nil_append, List.append_assoc, List.cons_append]
    exact .unary blanks written

theorem parenthesized
    (blanks : IsBlanks before)
    (mendable : Mendable loosest [] text failure) :
    Mendable bound [] (before ++ '(' :: text) failure := by
  obtain ⟨missing, read, completion, tree, rfl, mended, written⟩ := mendable
  have noBlanks : IsBlanks [] := List.forall_mem_nil _
  refine ⟨missing, before ++ '(' :: read, completion ++ [')'], tree, ?_, mended.close missing, ?_⟩
  · rw [List.append_assoc, List.cons_append]
  · have whole : tree.WrittenAs bound _ := .parenthesized blanks written noBlanks
    simpa only [List.nil_append, List.append_assoc, List.cons_append] using whole

theorem link
    {op : BinaryOp}
    {left : Tree}
    (leftWritten : left.WrittenAs op.level.leftBound front)
    (blanks : IsBlanks before)
    (mendable : Mendable (op.level.rank - 1) [] text failure) :
    Mendable op.level.rank front (before ++ (op.symbol.toList ++ text)) failure := by
  obtain ⟨missing, read, completion, right, rfl, mended, rightWritten⟩ := mendable
  refine ⟨missing, before ++ (op.symbol.toList ++ read), completion, .binary op left right, ?_,
    mended, ?_⟩
  · simp only [List.append_assoc]
  · have whole := leftWritten.link blanks rightWritten
    simpa only [List.nil_append, List.append_assoc] using whole

end Mendable

namespace Reader

variable {text : List Char} {failure : Failure}

/-! ## Words -/

theorem exists_content_of_quotedContent
    {quote : Char}
    {rest : List Char}
    (fails : quotedContent quote text = .error rest) :
    ∃ content inside, ContentWrittenAs quote content inside ∧ text = inside ++ rest := by
  induction text using quotedContent_induction quote with
  | nil =>
      obtain rfl := Except.error.inj fails
      exact ⟨[], [], .nil, rfl⟩
  | closed after =>
      rw [quotedContent_quote] at fails
      contradiction
  | unfinished noQuote =>
      rw [quotedContent_backslash noQuote] at fails
      obtain rfl := Except.error.inj fails
      exact ⟨[], [], .nil, rfl⟩
  | escaped next more noQuote inductionHypothesis =>
      rw [quotedContent_escaped noQuote] at fails
      obtain ⟨content, inside, written, rfl⟩ := inductionHypothesis (map_eq_error_iff.1 fails)
      exact ⟨next :: content, '\\' :: next :: inside, .escaped written, rfl⟩
  | plain c more noQuote noEscape inductionHypothesis =>
      rw [quotedContent_plain noQuote noEscape] at fails
      obtain ⟨content, inside, written, rfl⟩ := inductionHypothesis (map_eq_error_iff.1 fails)
      exact ⟨c :: content, c :: inside, .plain noQuote noEscape written, rfl⟩

/-- A path stops being one where a name is missing behind a point. -/
theorem exists_path_of_segments
    (fails : segments text = .error failure) :
    failure.fault = .identifier ∧
      ∃ names read, PathWrittenAs names (read ++ ['a']) ∧ text = read ++ failure.rest := by
  induction text using segments_induction with
  | ends text noPoint =>
      rw [segments_of_no_point noPoint] at fails
      contradiction
  | stops text more point noName =>
      rw [segments_of_no_name point noName] at fails
      obtain rfl := Except.error.inj fails
      obtain ⟨before, blanksBefore, text_eq⟩ := exists_blanks_append_skip text
      obtain ⟨gap, blanksAfter, more_eq⟩ := exists_blanks_append_skip more
      have isIdentifier : IsIdentifier ['a'] := .intro (.inl rfl) (List.forall_mem_nil _)
      refine ⟨rfl, [['a']], before ++ '.' :: gap, ?_, ?_⟩
      · rw [List.append_assoc, List.cons_append]
        exact .cons blanksBefore blanksAfter isIdentifier .nil
      · rw [List.append_assoc, List.cons_append, ← more_eq, ← point]
        exact text_eq
  | goesOn text more segment point found _ inductionHypothesis =>
      rw [segments_of_name point found] at fails
      obtain ⟨isIdentifierFault, names, read, path, rest_eq⟩ :=
        inductionHypothesis (map_eq_error_iff.1 fails)
      obtain ⟨isIdentifier, more_eq⟩ := isIdentifier_of_identifier? found
      obtain ⟨before, blanksBefore, text_eq⟩ := exists_blanks_append_skip text
      obtain ⟨gap, blanksAfter, gap_eq⟩ := exists_blanks_append_skip more
      refine ⟨isIdentifierFault, segment.value :: names,
        before ++ '.' :: (gap ++ (segment.value ++ read)), ?_, ?_⟩
      · simp only [List.append_assoc, List.cons_append]
        exact .cons blanksBefore blanksAfter isIdentifier path
      · calc text = before ++ '.' :: more := by rw [← point]; exact text_eq
          _ = before ++ '.' :: (gap ++ (segment.value ++ (read ++ failure.rest))) := by
            rw [← rest_eq, ← more_eq, ← gap_eq]
          _ = before ++ '.' :: (gap ++ (segment.value ++ read)) ++ failure.rest := by
            simp only [List.append_assoc, List.cons_append]

/-- Where no atom is read, one is missing or the beginning of one can be mended. -/
theorem mendable_of_atom
    {before : List Char}
    (blanks : IsBlanks before)
    (fails : atom text = .error failure) :
    Mendable 0 [] (before ++ text) failure := by
  rcases atom_eq_error fails with
    rfl | ⟨name, found, noKeyword, path⟩ | ⟨quote, inside, rest, rfl, isQuote, content, rfl⟩
  · have zero : IsDigits ['0'] := ⟨List.cons_ne_nil _ _, List.forall_mem_singleton.2 rfl⟩
    refine ⟨Fault.noConfusion, before, ['0'], .literal (.number ['0']), rfl, .operand 0, ?_⟩
    rw [List.nil_append]
    exact .atom blanks (.literal (.number (.inl zero)))
  · obtain ⟨isIdentifier, text_eq⟩ := isIdentifier_of_identifier? found
    obtain ⟨isIdentifierFault, names, read, pathWritten, rest_eq⟩ := exists_path_of_segments path
    have noKeywordName := (keyword?_eq_none_iff _).1 noKeyword
    refine ⟨?_, before ++ (name.value ++ read), ['a'], .field name.value names, ?_, ?_, ?_⟩
    · rw [isIdentifierFault]
      exact Fault.noConfusion
    · rw [List.append_assoc, List.append_assoc, ← rest_eq, ← text_eq]
    · rw [isIdentifierFault]
      exact .identifier 0
    · rw [List.nil_append, List.append_assoc, List.append_assoc]
      exact .atom blanks (.field isIdentifier noKeywordName pathWritten)
  · obtain ⟨value, read, written, rfl⟩ := exists_content_of_quotedContent content
    refine ⟨Fault.noConfusion, before ++ quote :: read, [quote], .literal (.text value), ?_,
      .stringLiteral 0 isQuote, ?_⟩
    · rw [List.append_assoc, List.cons_append]
    · rw [List.nil_append, List.append_assoc, List.cons_append]
      exact .atom blanks (.literal (.text isQuote written))

/-! ## Levels -/

theorem mendable_unclosed
    {before more rest : List Char}
    {tree : Tree}
    (blanks : IsBlanks before)
    (read : success (chain .coalesce more) = some (tree, rest)) :
    Mendable 0 [] (before ++ '(' :: more) ⟨.closingParenthesis, skip rest⟩ := by
  obtain ⟨written, treeWritten, rfl⟩ := writtenAs_of_chain read
  obtain ⟨gap, gapBlanks, rest_eq⟩ := exists_blanks_append_skip rest
  refine ⟨Fault.noConfusion, before ++ '(' :: (written ++ gap), [')'], tree, ?_,
    .closingParenthesis 0, ?_⟩
  · rw [List.append_assoc, List.cons_append, List.append_assoc, ← rest_eq]
  · have whole : tree.WrittenAs 0 _ := .parenthesized blanks treeWritten gapBlanks
    simpa only [List.nil_append, List.append_assoc, List.cons_append] using whole

-- By induction along the readers: the text gets shorter, or the level tighter on the same text.
mutual

theorem mendable_of_operand
    {text : List Char}
    {failure : Failure}
    (fails : operand text = .error failure) :
    Mendable 0 [] text failure := by
  obtain ⟨before, blanks, text_eq⟩ := exists_blanks_append_skip text
  rw [text_eq]
  rcases operand_eq_error fails with
    ⟨op, more, front, inner⟩ | ⟨more, front, inner | ⟨tree, rest, read, rfl⟩⟩ | noAtom
  · have shorter := length_lt_of_skip_eq_cons front
    rw [front]
    exact (mendable_of_operand inner).unary blanks op
  · have shorter := length_lt_of_skip_eq_cons front
    rw [front]
    exact (mendable_of_chain inner).parenthesized blanks
  · rw [front]
    exact mendable_unclosed blanks read
  · exact mendable_of_atom blanks noAtom
termination_by (text.length, 0)

theorem mendable_of_tighter
    {level : Level}
    {text : List Char}
    {failure : Failure}
    (fails : tighter level text = .error failure) :
    Mendable (level.rank - 1) [] text failure := by
  rcases tighter_eq_error fails with ⟨inner, next, fails⟩ | fails
  · have tighter := Level.rank_tighter next
    exact (mendable_of_chain fails).mono (Nat.le_sub_one_of_lt tighter)
  · exact (mendable_of_operand fails).mono (Nat.zero_le _)
termination_by (text.length, 2 * level.rank)
decreasing_by
  · exact Prod.Lex.right _ (by omega)
  · exact Prod.Lex.right _ (by have := level.rank_pos; omega)

theorem mendable_of_chain
    {level : Level}
    {text : List Char}
    {failure : Failure}
    (fails : chain level text = .error failure) :
    Mendable level.rank [] text failure := by
  rcases chain_eq_error fails with first | ⟨first, rest, read, linked⟩
  · exact (mendable_of_tighter first).mono (Nat.sub_le _ _)
  · have shorter := length_success read
    obtain ⟨firstText, firstWritten, rfl⟩ := writtenAs_of_tighter read
    exact (mendable_of_links (firstWritten.mono level.rank_sub_one_le_leftBound) linked).of_append
termination_by (text.length, 2 * level.rank + 1)

theorem mendable_of_links
    {level : Level}
    {left : Tree}
    {leftText text : List Char}
    {failure : Failure}
    (leftWritten : left.WrittenAs level.leftBound leftText)
    (fails : links level left text = .error failure) :
    Mendable level.rank leftText text failure := by
  obtain ⟨op, afterOp, link, fails⟩ := links_eq_error fails
  have shorterOp := (length_operator? link).trans_le (length_skip_le text)
  obtain ⟨before, blanks, text_eq⟩ := exists_blanks_append_skip text
  obtain ⟨rfl, skip_eq⟩ := of_operator? link
  rcases fails with fails | ⟨right, rest, read, chains, linked⟩
  · rw [text_eq, skip_eq]
    exact (mendable_of_tighter fails).link leftWritten blanks
  · have shorter := (length_success read).trans shorterOp
    obtain ⟨rightText, rightWritten, rfl⟩ := writtenAs_of_tighter read
    have joinedWritten := leftWritten.link blanks rightWritten
    have text_parts : text = before ++ (op.symbol.toList ++ rightText) ++ rest := by
      rw [text_eq, skip_eq]
      simp only [List.append_assoc]
    rw [text_parts]
    exact (mendable_of_links (joinedWritten.mono (op.level.rank_le_leftBound chains))
      linked).of_append
termination_by (text.length, 0)

end

/-- What stands in front of a failure becomes a spelled tree with what mends its fault. -/
theorem exists_spelling_of_tree_eq_error
    (fails : Reader.tree text = .error failure) :
    ∃ read completion tree, text = read ++ failure.rest ∧
      failure.fault.MendedBy completion ∧ Spells (read ++ completion) tree := by
  have noBlanks : IsBlanks [] := List.forall_mem_nil _
  rcases tree_eq_error fails with inner | ⟨tree, rest, read, rfl⟩
  · obtain ⟨_, read, completion, tree, text_eq, mended, written⟩ := mendable_of_chain inner
    rw [List.nil_append] at written
    exact ⟨read, completion, tree, text_eq, mended, _, [], written, noBlanks,
      (List.append_nil _).symm⟩
  · obtain ⟨written, treeWritten, rfl⟩ := writtenAs_of_chain read
    obtain ⟨gap, gapBlanks, rest_eq⟩ := exists_blanks_append_skip rest
    refine ⟨written ++ gap, [], tree, ?_, .trailingInput, written, gap, treeWritten, gapBlanks,
      List.append_nil _⟩
    rw [List.append_assoc, ← rest_eq]

end Reader

/-! ## Offsets -/

theorem byteCount_eq_utf8ByteSize (chars : List Char) :
    byteCount chars = (String.ofList chars).utf8ByteSize := by
  induction chars using List.reverseRecOn with
  | nil => rfl
  | append_singleton chars last inductionHypothesis =>
      have lastSize : (String.ofList [last]).utf8ByteSize = last.utf8Size := by
        rw [← String.singleton_eq_ofList, String.utf8ByteSize_singleton]
      rw [String.ofList_append, String.utf8ByteSize_append, ← inductionHypothesis, lastSize,
        byteCount, List.foldl_concat, byteCount]

/--
Where a text is rejected, the message names an offset in it, in front of a whole character.
The text up to there is the beginning of an expression, which what mends the fault completes.
-/
theorem rejected_behind_viable_text
    {source : String}
    {error : Error}
    (rejected : parse source = .error error) :
    ∃ fault offset, error = ⟨source, .unreadable fault offset⟩ ∧
      error.message = "Invalid expression '" ++ source ++ "': " ++
        (fault.message ++ (" at offset " ++ toString offset)) ∧
      offset ≤ source.utf8ByteSize ∧ (String.Pos.Raw.mk offset).IsValid source ∧
      ∃ front back, source = front ++ back ∧ front.utf8ByteSize = offset ∧
        ∃ completion expression, fault.MendedBy completion ∧
          parse (front ++ String.ofList completion) = .ok expression := by
  cases read : Reader.tree source.toList with
  | ok tree =>
      rw [parse, read] at rejected
      contradiction
  | error failure =>
      rw [parse, read] at rejected
      obtain rfl := Except.error.inj rejected
      obtain ⟨front, completion, tree, source_eq, mended, spells⟩ :=
        Reader.exists_spelling_of_tree_eq_error read
      have parts : source = String.ofList front ++ String.ofList failure.rest := by
        rw [← String.ofList_append, ← source_eq, String.ofList_toList]
      have offset_eq : byteCount source.toList - byteCount failure.rest =
          (String.ofList front).utf8ByteSize := by
        rw [byteCount_eq_utf8ByteSize, byteCount_eq_utf8ByteSize, String.ofList_toList, parts,
          String.utf8ByteSize_append, Nat.add_sub_cancel]
      refine ⟨failure.fault, (String.ofList front).utf8ByteSize, ?_, ?_, ?_, ?_,
        String.ofList front, String.ofList failure.rest, parts, rfl, completion,
        ⟨String.ofList front ++ String.ofList completion, tree⟩, mended, ?_⟩
      · rw [offset_eq]
      · rw [offset_eq]
        rfl
      · rw [parts, String.utf8ByteSize_append]
        exact Nat.le_add_right _ _
      · exact String.Pos.Raw.isValid_iff_exists_append.2 ⟨_, _, parts, rfl⟩
      · rw [parse, String.toList_append, String.toList_ofList, String.toList_ofList,
          tree_eq_ok_iff_spells.2 spells]

/-- A text that ends behind an opening parenthesis lacks an operand, and behind it a closing
parenthesis. -/
theorem rejected_behind_open_parenthesis :
    parse "!( " = .error ⟨"!( ", .unreadable .operand 3⟩ ∧
      ∃ fault offset,
        (⟨"!( ", .unreadable .operand 3⟩ : Error) = ⟨"!( ", .unreadable fault offset⟩ ∧
        ∃ front back, "!( " = front ++ back ∧ front.utf8ByteSize = offset ∧
          ∃ completion expression, fault.MendedBy completion ∧
            parse (front ++ String.ofList completion) = .ok expression := by
  have unread : Reader.tree "!( ".toList = .error ⟨.operand, []⟩ := by
    cbv
  have rejected : parse "!( " = .error ⟨"!( ", .unreadable .operand 3⟩ := by
    rw [parse, unread]
    rfl
  obtain ⟨fault, offset, isError, _, _, _, viable⟩ := rejected_behind_viable_text rejected
  exact ⟨rejected, fault, offset, isError, viable⟩

end CloudPlan.Expression
