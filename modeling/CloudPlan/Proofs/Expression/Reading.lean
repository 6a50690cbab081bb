import CloudPlan.Expression.Reader

/-!
# Successful readings

What each reader of trees comes to when nothing is wrong, in terms of the readers that it
calls.  Faults are left aside, and with them the proofs that something was read.
-/

namespace CloudPlan.Expression.Reader

/-- What was read, and the text after it, if nothing is wrong. -/
def success {text : List Char} (outcome : Except Failure (Reading Tree text)) :
    Option (Tree × List Char) :=
  outcome.toOption.map fun reading => (reading.value, reading.rest)

theorem success_ok {text : List Char} (reading : Reading Tree text) :
    success (.ok reading) = some (reading.value, reading.rest) := rfl

theorem length_success
    {text rest : List Char}
    {outcome : Except Failure (Reading Tree text)}
    {tree : Tree}
    (read : success outcome = some (tree, rest)) :
    rest.length < text.length := by
  cases outcome with
  | error failure => simp [success, Except.toOption] at read
  | ok reading =>
      obtain ⟨rfl, rfl⟩ := Prod.mk.inj (Option.some.inj read)
      exact reading.shorter

/-! ## Atoms -/

theorem success_atom (text : List Char) :
    success (atom text) =
      match digits? text, identifier? text with
      | some (digits, rest), _ => some (.literal (.number digits), rest)
      | none, some name =>
        match keyword? name.value with
        | some value => some (.literal value, name.rest)
        | none =>
          (segments name.rest).toOption.map fun path => (.field name.value path.1, path.2)
      | none, none =>
        match text with
        | [] => none
        | quote :: inside =>
          if quote = '"' ∨ quote = '\'' then
            (quotedContent quote inside).toOption.map fun read => (.literal (.text read.1), read.2)
          else
            none := by
  rw [atom]
  split
  next digits rest number =>
    simp only [number]
    rfl
  next noNumber =>
    simp only [noNumber]
    cases identifier? text with
    | some name =>
        simp only
        cases keyword? name.value with
        | some value => rfl
        | none =>
            simp only
            split
            next failure wrong =>
              rw [wrong]
              rfl
            next names rest path =>
              simp only [path]
              rfl
    | none =>
        cases text with
        | nil => rfl
        | cons quote inside =>
            simp only
            by_cases isQuote : quote = '"' ∨ quote = '\''
            · simp only [if_pos isQuote]
              split
              next rest wrong =>
                rw [wrong]
                rfl
              next content rest read =>
                simp only [read]
                rfl
            · simp only [if_neg isQuote]
              rfl

/-! ## Operators -/

/-- What comes of a tree with the operators and operands that follow it on a level. -/
def extension (level : Level) (left : Tree) (text : List Char) : Option (Tree × List Char) :=
  (links level left text).toOption.map Subtype.val

theorem success_chain (level : Level) (text : List Char) :
    success (chain level text) =
      (success (tighter level text)).bind fun first => extension level first.1 first.2 := by
  rw [chain]
  cases front : tighter level text with
  | error failure => rfl
  | ok first =>
      simp only [success, extension, Except.toOption, Option.map_some, Option.bind_some]
      cases links level first.value first.rest with
      | error failure => rfl
      | ok found => rfl

theorem success_tighter (level : Level) (text : List Char) :
    success (tighter level text) =
      match level.tighter? with
      | some inner => success (chain inner text)
      | none => success (operand text) := by
  rw [tighter]
  split <;> simp [*]

theorem extension_eq (level : Level) (left : Tree) (text : List Char) :
    extension level left text =
      match operator? level (skip text) with
      | none => some (left, text)
      | some (op, afterOp) =>
        (success (tighter level afterOp)).bind fun right =>
          if level.chains then extension level (.binary op left right.1) right.2
          else some (.binary op left right.1, right.2) := by
  rw [extension, links]
  split
  next quiet =>
    rw [quiet]
    rfl
  next op afterOp link =>
    simp only [link]
    cases tighter level afterOp with
    | error failure => rfl
    | ok right =>
        cases chains : level.chains with
        | false => rfl
        | true =>
            simp only [success, extension, Except.toOption, Option.map_some, Option.bind_some,
              if_true]
            cases links level (.binary op left right.value) right.rest with
            | error failure => rfl
            | ok found => rfl

theorem success_operand (text : List Char) :
    success (operand text) =
      match skip text with
      | '!' :: rest => (success (operand rest)).map fun inner => (.unary .not inner.1, inner.2)
      | '-' :: rest => (success (operand rest)).map fun inner => (.unary .negate inner.1, inner.2)
      | '(' :: rest =>
        (success (chain .coalesce rest)).bind fun inner =>
          match skip inner.2 with
          | ')' :: after => some (inner.1, after)
          | _ => none
      | start => success (atom start) := by
  rw [operand]
  split
  next rest front =>
    simp only [front]
    cases operand rest <;> rfl
  next rest front =>
    simp only [front]
    cases operand rest <;> rfl
  next rest front =>
    simp only [front]
    cases chain .coalesce rest with
    | error failure => rfl
    | ok inner =>
        simp only [success_ok, Option.bind_some]
        split
        next after close => simp only [close, success_ok]
        next unclosed =>
          split
          next after close => exact absurd close (unclosed after)
          next => rfl
  next noNot noMinus noParenthesis =>
    split
    next rest front => exact absurd front (noNot rest)
    next rest front => exact absurd front (noMinus rest)
    next rest front => exact absurd front (noParenthesis rest)
    next => cases atom (skip text) <;> rfl

end CloudPlan.Expression.Reader
