import CloudPlan.Proofs.Expression.Reading
import CloudPlan.Proofs.Outcome

/-!
# Failed readings

What each reader of trees fails with, in terms of the readers that it calls: with a fault of
its own, with one that comes from further inside, or with one behind something that was read.
-/

namespace CloudPlan.Expression.Reader

variable {text : List Char} {failure : Failure}

/-- An atom is not read where none starts, in a path or in a quoted text. -/
theorem atom_eq_error
    (fails : atom text = .error failure) :
    failure = ⟨.operand, text⟩ ∨
    (∃ name, identifier? text = some name ∧ keyword? name.value = none ∧
      segments name.rest = .error failure) ∨
    ∃ quote inside rest, text = quote :: inside ∧ (quote = '"' ∨ quote = '\'') ∧
      quotedContent quote inside = .error rest ∧ failure = ⟨.stringLiteral, rest⟩ := by
  unfold atom at fails
  split at fails
  next => contradiction
  next =>
    split at fails
    next name found =>
      split at fails
      next => contradiction
      next noKeyword =>
        split at fails
        next inner path =>
          obtain rfl := Except.error.inj fails
          exact Or.inr (Or.inl ⟨name, found, noKeyword, path⟩)
        next => contradiction
    next =>
      cases text with
      | nil => exact Or.inl (Except.error.inj fails).symm
      | cons quote inside =>
          dsimp only at fails
          split at fails
          next isQuote =>
            split at fails
            next rest content =>
              exact Or.inr (Or.inr
                ⟨quote, inside, rest, rfl, isQuote, content, (Except.error.inj fails).symm⟩)
            next => contradiction
          next => exact Or.inl (Except.error.inj fails).symm

/-- An operand is not read where the operand of a prefix operator is not, where what stands in
parentheses is not or is not closed, and where no atom is. -/
theorem operand_eq_error
    (fails : operand text = .error failure) :
    (∃ (op : UnaryOp) (more : List Char), skip text = op.symbol :: more ∧
      operand more = .error failure) ∨
    (∃ more, skip text = '(' :: more ∧
      (chain .coalesce more = .error failure ∨
        ∃ tree rest, success (chain .coalesce more) = some (tree, rest) ∧
          failure = ⟨.closingParenthesis, skip rest⟩)) ∨
    atom (skip text) = .error failure := by
  rw [operand] at fails
  split at fails
  next more front => exact Or.inl ⟨.not, more, front, map_eq_error_iff.1 fails⟩
  next more front => exact Or.inl ⟨.negate, more, front, map_eq_error_iff.1 fails⟩
  next more front =>
    refine Or.inr (Or.inl ⟨more, front, ?_⟩)
    split at fails
    next inner found =>
      obtain rfl := Except.error.inj fails
      exact Or.inl found
    next inner found =>
      split at fails
      next => contradiction
      next =>
        rw [found]
        exact Or.inr ⟨_, _, success_ok inner, (Except.error.inj fails).symm⟩
  next => exact Or.inr (Or.inr (map_eq_error_iff.1 fails))

theorem tighter_eq_error
    {level : Level}
    (fails : tighter level text = .error failure) :
    (∃ inner, level.tighter? = some inner ∧ chain inner text = .error failure) ∨
    operand text = .error failure := by
  rw [tighter] at fails
  split at fails
  next inner next => exact Or.inl ⟨inner, next, fails⟩
  next => exact Or.inr fails

theorem chain_eq_error
    {level : Level}
    (fails : chain level text = .error failure) :
    tighter level text = .error failure ∨
    ∃ first rest, success (tighter level text) = some (first, rest) ∧
      links level first rest = .error failure := by
  rw [chain] at fails
  split at fails
  next inner found =>
    obtain rfl := Except.error.inj fails
    exact Or.inl found
  next first found =>
    split at fails
    next inner linked =>
      obtain rfl := Except.error.inj fails
      rw [found]
      exact Or.inr ⟨_, _, success_ok first, linked⟩
    next => contradiction

theorem links_eq_error
    {level : Level}
    {left : Tree}
    (fails : links level left text = .error failure) :
    ∃ op afterOp, operator? level (skip text) = some (op, afterOp) ∧
      (tighter level afterOp = .error failure ∨
        ∃ right rest, success (tighter level afterOp) = some (right, rest) ∧
          level.chains = true ∧ links level (.binary op left right) rest = .error failure) := by
  rw [links] at fails
  split at fails
  next => contradiction
  next op afterOp link =>
    refine ⟨op, afterOp, link, ?_⟩
    split at fails
    next inner found =>
      obtain rfl := Except.error.inj fails
      exact Or.inl found
    next right found =>
      dsimp only at fails
      split at fails
      next chains =>
        split at fails
        next inner linked =>
          obtain rfl := Except.error.inj fails
          rw [found]
          exact Or.inr ⟨_, _, success_ok right, chains, linked⟩
        next => contradiction
      next => contradiction

/-- A whole text is not read where no tree is, or where something stands behind one. -/
theorem tree_eq_error
    (fails : Reader.tree text = .error failure) :
    chain .coalesce text = .error failure ∨
    ∃ tree rest, success (chain .coalesce text) = some (tree, rest) ∧
      failure = ⟨.trailingInput, skip rest⟩ := by
  rw [Reader.tree] at fails
  split at fails
  next inner found =>
    obtain rfl := Except.error.inj fails
    exact Or.inl found
  next reading found =>
    split at fails
    next => contradiction
    next =>
      rw [found]
      exact Or.inr ⟨_, _, success_ok reading, (Except.error.inj fails).symm⟩

end CloudPlan.Expression.Reader
