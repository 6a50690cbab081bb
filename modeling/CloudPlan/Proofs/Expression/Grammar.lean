import CloudPlan.Expression.Basic
import CloudPlan.Proofs.Expression.Soundness

/-!
# The language of expressions

What is written is read: on every level a written tree is taken from the front of a text
that goes on with nothing of the level.  So the texts that are expressions are exactly
those that spell a tree, and each of them spells one tree only.
-/

namespace CloudPlan.Expression

namespace Reader

variable {text rest : List Char} {tree : Tree}

/-! ## Operators in front of a text -/

/-- Only a comparison is the beginning of another operator, and the other one goes on with
an equals sign. -/
theorem operator?_append
    {op : BinaryOp}
    (noEquals : ∀ c ∈ text.head?, c ≠ '=') :
    operator? op.level (op.symbol.toList ++ text) = some (op, text) := by
  have strictly : textAfter? ['='] text = none := by
    cases text with
    | nil => rfl
    | cons c more => simp [textAfter?, (noEquals c rfl).symm]
  cases op with
  | less | greater =>
      simp [operator?, BinaryOp.level, Level.operators, BinaryOp.symbol, textAfter?, strictly]
  | _ => rfl

/-- The operators of different levels differ in their first characters. -/
theorem level_eq_of_head_symbol
    {op other : BinaryOp}
    (head : op.symbol.toList.head? = other.symbol.toList.head?) :
    op.level = other.level := by
  revert head
  cases op <;> cases other <;> decide

theorem operator?_append_eq_none
    {op : BinaryOp}
    {level : Level}
    (otherLevel : level ≠ op.level)
    (text : List Char) :
    operator? level (op.symbol.toList ++ text) = none := by
  by_contra found
  obtain ⟨⟨other, rest⟩, isFound⟩ := Option.ne_none_iff_exists'.1 found
  obtain ⟨rfl, same⟩ := of_operator? isFound
  refine otherLevel (level_eq_of_head_symbol ?_)
  have heads := congrArg List.head? same
  rw [List.head?_append_of_ne_nil _ (List.ne_nil_of_length_pos (length_symbol_pos op)),
    List.head?_append_of_ne_nil _ (List.ne_nil_of_length_pos (length_symbol_pos other))] at heads
  exact heads.symm

/-! ## Beginnings of written trees -/

theorem head_behind_blanks
    {before : List Char}
    (blanks : IsBlanks before)
    {c : Char}
    (other : c ≠ '=')
    (more : List Char) :
    ∃ d rest, before ++ c :: more = d :: rest ∧ d ≠ '=' := by
  cases before with
  | nil => exact ⟨c, more, rfl, other⟩
  | cons b rest =>
      have noBlank : ∀ d ∈ [' ', '\t', '\r', '\n'], d ≠ '=' := by simp
      exact ⟨b, _, rfl, noBlank b (blanks b List.mem_cons_self)⟩

/-- No written tree starts with an equals sign. -/
theorem head_writtenAs
    {bound : Nat}
    (written : tree.WrittenAs bound text) :
    ∃ c more, text = c :: more ∧ c ≠ '=' := by
  induction written with
  | atom blanks atomWritten =>
      obtain ⟨c, more, rfl, starts⟩ := head_atom atomWritten
      refine head_behind_blanks blanks ?_ more
      rintro rfl
      exact absurd starts (by decide)
  | @unary _ _ _ op _ blanks _ _ =>
      exact head_behind_blanks blanks (by cases op <;> decide) _
  | parenthesized blanks _ _ _ => exact head_behind_blanks blanks (by decide) _
  | binary _ _ _ _ leftHead _ =>
      obtain ⟨c, more, rfl, other⟩ := leftHead
      exact ⟨c, _, rfl, other⟩

/-! ## Places -/

/-- How loose an operator may be in a place: one of a level, or one that holds operands. -/
def rank : Option Level → Nat
  | none => 0
  | some level => level.rank

/-- What is read in a place. -/
def within : Option Level → List Char → Option (Tree × List Char)
  | none, text => success (operand text)
  | some level, text => success (chain level text)

theorem success_tighter_eq_within (level : Level) (text : List Char) :
    success (tighter level text) = within level.tighter? text := by
  rw [success_tighter]
  cases level.tighter? <;> rfl

theorem rank_tighter? (level : Level) : rank level.tighter? = level.rank - 1 := by
  cases level <;> rfl

theorem rank_injective {left right : Option Level} (same : rank left = rank right) :
    left = right := by
  have positive := Level.rank_pos
  cases left with
  | none =>
      cases right with
      | none => rfl
      | some level => exact absurd same (positive level).ne
  | some level =>
      cases right with
      | none => exact absurd same (positive level).ne'
      | some other =>
          revert same
          cases level <;> cases other <;> decide

/-- A text goes on with no operator up to a looseness. -/
def Quiet (bound : Nat) (text : List Char) : Prop :=
  ∀ level : Level, level.rank ≤ bound → operator? level (skip text) = none

theorem Quiet.mono
    {bound smaller : Nat}
    (quiet : Quiet bound text)
    (le : smaller ≤ bound) :
    Quiet smaller text :=
  fun level within => quiet level (within.trans le)

/-- Without an operator of its level a chain ends. -/
theorem extension_eq_some
    {level : Level}
    (quiet : operator? level (skip text) = none)
    (left : Tree) :
    extension level left text = some (left, text) := by
  rw [extension_eq, quiet]

theorem success_chain_of_within
    {level : Level}
    (read : within level.tighter? text = some (tree, rest)) :
    success (chain level text) = extension level tree rest := by
  rw [success_chain, success_tighter_eq_within, read]
  rfl

/-- What is read in a place is read in looser places too, if none of their operators
follows. -/
theorem within_of_rank_le
    {place : Option Level}
    (read : within place text = some (tree, rest))
    {looser : Option Level}
    (le : rank place ≤ rank looser)
    (quiet : Quiet (rank looser) rest) :
    within looser text = some (tree, rest) := by
  rcases le.eq_or_lt with same | lt
  · rw [← rank_injective same]
    exact read
  · cases looser with
    | none => exact absurd lt (Nat.not_lt_zero _)
    | some level =>
        have inner : within level.tighter? text = some (tree, rest) := by
          refine within_of_rank_le read ?_ (quiet.mono ?_)
          · rw [rank_tighter?]
            exact Nat.le_sub_one_of_lt lt
          · rw [rank_tighter?]
            exact Nat.sub_le _ _
        rw [within, success_chain_of_within inner]
        exact extension_eq_some (quiet level le_rfl) tree
termination_by rank looser
decreasing_by
  rw [rank_tighter?]
  simp_all only
  exact Nat.sub_one_lt_of_lt lt

theorem within_of_operand
    (read : success (operand text) = some (tree, rest))
    {place : Option Level}
    (quiet : Quiet (rank place) rest) :
    within place text = some (tree, rest) := by
  have tightest : within none text = some (tree, rest) := read
  exact within_of_rank_le tightest (Nat.zero_le _) quiet

/-! ## Completeness -/

/--
A text is read as a tree where operators up to a looseness may stand: in full if nothing
of the place follows, and else as the left operand of what follows.
-/
structure ReadAs (bound : Nat) (tree : Tree) (text : List Char) : Prop where
  /-- The tree is read, if no operator of the place follows. -/
  alone : ∀ {place : Option Level} {rest : List Char}, rank place = bound →
    Stops rest → Quiet bound rest → within place (text ++ rest) = some (tree, rest)
  /-- The tree is read as the beginning of a chain, if no tighter operator follows. -/
  ahead : ∀ {level : Level} {rest : List Char}, level.rank = bound → level.chains = true →
    Stops rest → Quiet (bound - 1) rest →
    success (chain level (text ++ rest)) = extension level tree rest

/-- What is read in a place is read in all looser ones. -/
theorem ReadAs.of_tighter
    {bound : Nat}
    (inner : Option Level)
    (tighter : rank inner < bound)
    (read : ∀ {rest : List Char}, Stops rest → Quiet (rank inner) rest →
      within inner (text ++ rest) = some (tree, rest)) :
    ReadAs bound tree text where
  alone := by
    rintro place rest rfl stops quiet
    exact within_of_rank_le (read stops (quiet.mono tighter.le)) tighter.le quiet
  ahead := by
    rintro level rest rfl _ stops quiet
    have le : rank inner ≤ rank level.tighter? := by
      rw [rank_tighter?]
      exact Nat.le_sub_one_of_lt tighter
    rw [← rank_tighter?] at quiet
    exact success_chain_of_within (within_of_rank_le (read stops (quiet.mono le)) le quiet)

/-- What is read as an operand is read in every place. -/
theorem ReadAs.of_operand
    (read : ∀ {rest : List Char}, Stops rest →
      success (operand (text ++ rest)) = some (tree, rest))
    (bound : Nat) :
    ReadAs bound tree text where
  alone := by
    rintro place rest rfl stops quiet
    exact within_of_operand (read stops) quiet
  ahead := by
    rintro level rest rfl _ stops quiet
    rw [← rank_tighter?] at quiet
    exact success_chain_of_within (within_of_operand (read stops) quiet)

theorem skip_behind_blanks
    {before : List Char}
    (blanks : IsBlanks before)
    {c : Char}
    (filled : isBlank c = false)
    (more : List Char) :
    skip (before ++ c :: more) = c :: more := by
  rw [skip_append blanks, skip_cons filled]

/-! ### Parentheses and prefix operators -/

theorem quiet_zero (text : List Char) : Quiet 0 text :=
  fun level within => absurd within (Nat.not_le_of_lt level.rank_pos)

theorem success_operand_unary
    {before : List Char}
    (blanks : IsBlanks before)
    (op : UnaryOp)
    (more : List Char) :
    success (operand (before ++ op.symbol :: more)) =
      (success (operand more)).map fun inner => (.unary op inner.1, inner.2) := by
  cases op with
  | not =>
      rw [success_operand, UnaryOp.symbol, skip_behind_blanks blanks (by decide)]
      rfl
  | negate =>
      rw [success_operand, UnaryOp.symbol, skip_behind_blanks blanks (by decide)]
      rfl

theorem operator?_parenthesis (level : Level) (text : List Char) :
    operator? level (')' :: text) = none := by
  cases level <;> rfl

theorem success_operand_parenthesized
    {before after : List Char}
    (blanksBefore : IsBlanks before)
    (blanksAfter : IsBlanks after)
    (read : ReadAs loosest tree text)
    (rest : List Char) :
    success (operand (before ++ '(' :: (text ++ (after ++ [')'])) ++ rest)) =
      some (tree, rest) := by
  have close : skip (after ++ ')' :: rest) = ')' :: rest :=
    skip_behind_blanks blanksAfter (by decide) rest
  have stops : Stops (after ++ ')' :: rest) := by
    rw [Stops, close]
    rintro c first
    obtain rfl := Option.some.inj first
    decide
  have quiet : Quiet loosest (after ++ ')' :: rest) := by
    intro level _
    rw [close]
    exact operator?_parenthesis level rest
  have inside : success (chain .coalesce (text ++ (after ++ ')' :: rest))) =
      some (tree, after ++ ')' :: rest) :=
    (show within (some .coalesce) _ = _ from read.alone rfl stops quiet)
  have shape : before ++ '(' :: (text ++ (after ++ [')'])) ++ rest =
      before ++ '(' :: (text ++ (after ++ ')' :: rest)) := by
    simp only [List.append_assoc, List.cons_append, List.nil_append]
  rw [shape, success_operand, skip_behind_blanks blanksBefore (by decide)]
  simp only [inside, Option.bind_some, close]

/-! ### Chains -/

section Link

variable {op : BinaryOp} {before : List Char}

theorem skip_operator
    (blanks : IsBlanks before)
    (text : List Char) :
    skip (before ++ (op.symbol.toList ++ text)) = op.symbol.toList ++ text := by
  cases op <;> exact skip_behind_blanks blanks (by decide) _

theorem stops_operator
    (blanks : IsBlanks before)
    (text : List Char) :
    Stops (before ++ (op.symbol.toList ++ text)) := by
  rw [Stops, skip_operator blanks]
  intro c first
  cases op <;> obtain rfl := Option.some.inj first <;> decide

theorem quiet_operator
    (blanks : IsBlanks before)
    (text : List Char) :
    Quiet (op.looseness - 1) (before ++ (op.symbol.toList ++ text)) := by
  intro level tighter
  rw [skip_operator blanks]
  refine operator?_append_eq_none ?_ text
  rintro rfl
  rw [← op.rank_level] at tighter
  have := op.level.rank_pos
  omega

/-- A link of a chain is an operator with the operand that follows it. -/
theorem extension_link
    {left right : Tree}
    {rightText : List Char}
    (blanks : IsBlanks before)
    (noEquals : ∀ c ∈ (rightText ++ rest).head?, c ≠ '=')
    (rightRead : ReadAs (op.looseness - 1) right rightText)
    (stops : Stops rest)
    (quiet : Quiet (op.looseness - 1) rest) :
    extension op.level left (before ++ (op.symbol.toList ++ (rightText ++ rest))) =
      if op.level.chains then extension op.level (.binary op left right) rest
      else some (.binary op left right, rest) := by
  have place : rank op.level.tighter? = op.looseness - 1 := by
    rw [rank_tighter?, op.rank_level]
  rw [extension_eq, skip_operator blanks, operator?_append noEquals]
  simp only [success_tighter_eq_within, rightRead.alone place stops quiet, Option.bind_some]

/-- A chain that starts with a left operand goes on after it. -/
theorem success_chain_left
    {left : Tree}
    {leftText : List Char}
    (leftRead : ReadAs op.leftBound left leftText)
    (stops : Stops rest)
    (quiet : Quiet (op.looseness - 1) rest) :
    success (chain op.level (leftText ++ rest)) = extension op.level left rest := by
  rw [← op.leftBound_level, Level.leftBound, op.rank_level] at leftRead
  split_ifs at leftRead with chains
  · exact leftRead.ahead op.rank_level chains stops quiet
  · have place : rank op.level.tighter? = op.looseness - 1 := by
      rw [rank_tighter?, op.rank_level]
    exact success_chain_of_within (leftRead.alone place stops quiet)

/-- On the level of its operator a written operation is read, and a chain may go on after it. -/
theorem success_chain_binary
    {left right : Tree}
    {leftText rightText : List Char}
    (leftRead : ReadAs op.leftBound left leftText)
    (blanks : IsBlanks before)
    (rightWritten : right.WrittenAs (op.looseness - 1) rightText)
    (rightRead : ReadAs (op.looseness - 1) right rightText)
    (stops : Stops rest)
    (quiet : Quiet (op.looseness - 1) rest) :
    success (chain op.level (leftText ++ (before ++ (op.symbol.toList ++ rightText)) ++ rest)) =
      if op.level.chains then extension op.level (.binary op left right) rest
      else some (.binary op left right, rest) := by
  have noEquals : ∀ c ∈ (rightText ++ rest).head?, c ≠ '=' := by
    obtain ⟨c, more, rfl, other⟩ := head_writtenAs rightWritten
    rintro d first
    obtain rfl := Option.some.inj first
    exact other
  rw [List.append_assoc leftText, List.append_assoc before, List.append_assoc op.symbol.toList,
    success_chain_left leftRead (stops_operator blanks _) (quiet_operator blanks _)]
  exact extension_link blanks noEquals rightRead stops quiet

theorem ReadAs.binary
    {bound : Nat}
    {left right : Tree}
    {leftText rightText : List Char}
    (allowed : op.looseness ≤ bound)
    (leftRead : ReadAs op.leftBound left leftText)
    (blanks : IsBlanks before)
    (rightWritten : right.WrittenAs (op.looseness - 1) rightText)
    (rightRead : ReadAs (op.looseness - 1) right rightText) :
    ReadAs bound (.binary op left right)
      (leftText ++ (before ++ (op.symbol.toList ++ rightText))) := by
  have alone : ∀ {rest : List Char}, Stops rest → Quiet (rank (some op.level)) rest →
      within (some op.level) (leftText ++ (before ++ (op.symbol.toList ++ rightText)) ++ rest) =
        some (.binary op left right, rest) := by
    intro rest stops quiet
    rw [rank, op.rank_level] at quiet
    rw [within, success_chain_binary leftRead blanks rightWritten rightRead stops
        (quiet.mono (Nat.sub_le _ _)),
      extension_eq_some (quiet op.level op.rank_level.le), ite_self]
  rcases allowed.eq_or_lt with rfl | tighter
  -- On its own level the operation may be the left operand of another one.
  · constructor
    · intro place rest isPlace stops quiet
      obtain rfl : place = some op.level := rank_injective (isPlace.trans op.rank_level.symm)
      exact alone stops (quiet.mono op.rank_level.le)
    · intro level rest isLevel chains stops quiet
      obtain rfl : level = op.level :=
        Option.some.inj (rank_injective (isLevel.trans op.rank_level.symm))
      rw [success_chain_binary leftRead blanks rightWritten rightRead stops quiet, if_pos chains]
  · exact ReadAs.of_tighter (some op.level) (op.rank_level.trans_lt tighter) alone

end Link

theorem readAs_of_writtenAs
    {bound : Nat}
    (written : tree.WrittenAs bound text) :
    ReadAs bound tree text := by
  induction written with
  | atom blanks atomWritten =>
      refine ReadAs.of_operand (fun stops => ?_) _
      obtain ⟨c, more, rfl, starts⟩ := head_atom atomWritten
      rw [List.append_assoc, List.cons_append, success_operand_of_atom blanks starts]
      exact success_atom_append atomWritten stops
  | unary blanks _ inductionHypothesis =>
      refine ReadAs.of_operand (fun stops => ?_) _
      have inner : within none _ = some _ := inductionHypothesis.alone rfl stops (quiet_zero _)
      rw [within] at inner
      rw [List.append_assoc, List.cons_append, success_operand_unary blanks, inner]
      rfl
  | parenthesized blanksBefore _ blanksAfter inductionHypothesis =>
      exact ReadAs.of_operand
        (fun _ => success_operand_parenthesized blanksBefore blanksAfter inductionHypothesis _) _
  | binary allowed _ blanks rightWritten leftRead rightRead =>
      exact ReadAs.binary allowed leftRead blanks rightWritten rightRead

/-- A whole text is read exactly when a tree is read from its front and blanks remain. -/
theorem tree_eq_ok_iff :
    Reader.tree text = .ok tree ↔
      ∃ rest, success (chain .coalesce text) = some (tree, rest) ∧ skip rest = [] := by
  rw [Reader.tree]
  cases read : chain .coalesce text with
  | error failure => simp [success, Except.toOption]
  | ok found =>
      rw [success_ok]
      simp only [Option.some.injEq, Prod.mk.injEq]
      constructor
      · intro whole
        split at whole
        next nothing => exact ⟨found.rest, ⟨Except.ok.inj whole, rfl⟩, nothing⟩
        next => contradiction
      · rintro ⟨rest, ⟨rfl, rfl⟩, nothing⟩
        rw [nothing]

theorem stops_blanks (blanks : IsBlanks text) : Stops text := by
  rw [Stops, skip_eq_nil_iff.2 blanks]
  simp

theorem quiet_blanks (blanks : IsBlanks text) (bound : Nat) : Quiet bound text := by
  intro level _
  rw [skip_eq_nil_iff.2 blanks]
  cases level <;> rfl

end Reader

/-- A text is read as a tree exactly when it spells the tree. -/
theorem tree_eq_ok_iff_spells
    {text : List Char}
    {tree : Tree} :
    Reader.tree text = .ok tree ↔ Spells text tree := by
  rw [Reader.tree_eq_ok_iff]
  constructor
  · rintro ⟨rest, read, nothing⟩
    obtain ⟨written, treeWritten, text_eq⟩ := Reader.writtenAs_of_chain read
    exact ⟨written, rest, treeWritten, Reader.skip_eq_nil_iff.1 nothing, text_eq⟩
  · rintro ⟨written, after, treeWritten, blanks, rfl⟩
    have read : Reader.within (some .coalesce) _ = some (tree, after) :=
      (Reader.readAs_of_writtenAs treeWritten).alone rfl (Reader.stops_blanks blanks)
        (Reader.quiet_blanks blanks _)
    exact ⟨after, read, Reader.skip_eq_nil_iff.2 blanks⟩

/-- Digits are read as a number. -/
theorem parse_of_isDigits
    {source : String}
    (digits : IsDigits source.toList) :
    parse source = .ok ⟨source, .literal (.number source.toList)⟩ := by
  have nothing : IsBlanks [] := by simp [IsBlanks]
  have spells : Spells source.toList (.literal (.number source.toList)) :=
    ⟨_, [], .atom nothing (.literal (.number (.inl digits))), nothing, by simp⟩
  rw [parse, tree_eq_ok_iff_spells.2 spells]

/-- The texts that are expressions are exactly those that the grammar writes, and each of
them means the tree that it writes. -/
theorem parse_accepts_exactly_spellings
    (source : String)
    (expression : Expression) :
    parse source = .ok expression ↔
      expression.source = source ∧ Spells source.toList expression.tree := by
  rw [← tree_eq_ok_iff_spells, parse]
  obtain ⟨ownSource, tree⟩ := expression
  cases Reader.tree source.toList with
  | error failure => simp
  | ok read => simp [eq_comm]

end CloudPlan.Expression
