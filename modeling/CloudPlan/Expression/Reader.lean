import CloudPlan.Expression.Tree

/-!
# Reading expressions

Text as an expression tree.  Every reader hands on the text that it has not read;
readers of something that cannot be empty leave less text than they were given.
-/

namespace CloudPlan.Expression

/-- What is missing or wrong where a text stops being an expression. -/
inductive Fault where
  | operand
  | identifier
  | stringLiteral
  | closingParenthesis
  | trailingInput
deriving DecidableEq

/-- A fault and the text from the place of the fault on. -/
structure Failure where
  /-- What is wrong. -/
  fault : Fault
  /-- The text that was not read. -/
  rest : List Char

/-- What was read from the front of a text, and the rest, which is shorter. -/
structure Reading (α : Type) (text : List Char) where
  /-- What was read. -/
  value : α
  /-- The rest of the text. -/
  rest : List Char
  /-- Something was read. -/
  shorter : rest.length < text.length

namespace Reader

/-- The blanks of expressions: space, tab, carriage return and line feed. -/
def isBlank (c : Char) : Bool :=
  c == ' ' || c == '\t' || c == '\r' || c == '\n'

/-- The text after its blanks. -/
def skip (text : List Char) : List Char :=
  text.dropWhile isBlank

theorem length_skip_le (text : List Char) : (skip text).length ≤ text.length :=
  (List.dropWhile_sublist _).length_le

/-- A character that an identifier may start with. -/
def startsIdentifier (c : Char) : Bool :=
  c.isAlpha || c == '_'

/-- A character that an identifier may go on with. -/
def continuesIdentifier (c : Char) : Bool :=
  c.isAlphanum || c == '_'

/-- An identifier. -/
def identifier? (text : List Char) : Option (Reading (List Char) text) :=
  match text with
  | [] => none
  | c :: rest =>
    if startsIdentifier c then
      some ⟨c :: rest.takeWhile continuesIdentifier, rest.dropWhile continuesIdentifier,
        Nat.lt_succ_of_le (List.dropWhile_sublist _).length_le⟩
    else
      none

/-- The digits of a number, with a point among them if digits follow it. -/
def digits? (text : List Char) : Option (List Char × List Char) :=
  let whole := text.takeWhile Char.isDigit
  let rest := text.dropWhile Char.isDigit
  if whole.isEmpty then
    none
  else
    match rest with
    | '.' :: more =>
      let fraction := more.takeWhile Char.isDigit
      if fraction.isEmpty then
        some (whole, rest)
      else
        some (whole ++ '.' :: fraction, more.dropWhile Char.isDigit)
    | _ => some (whole, rest)

/--
The content of a quoted text after its opening quote, and the text after its closing
quote; failing that, the text from the place where it cannot go on.  A backslash
takes the next character as it is.
-/
def quotedContent (quote : Char) : List Char → Except (List Char) (List Char × List Char)
  | [] => .error []
  | c :: rest =>
    if c = quote then
      .ok ([], rest)
    else if c = '\\' then
      match rest with
      | [] => .error [c]
      | next :: more =>
        (quotedContent quote more).map fun (content, after) => (next :: content, after)
    else
      (quotedContent quote rest).map fun (content, after) => (c :: content, after)

/-- The rest of a field path: every point is followed by an identifier. -/
def segments (text : List Char) : Except Failure (List (List Char) × List Char) :=
  match point : skip text with
  | '.' :: more =>
    match identifier? (skip more) with
    | none => .error ⟨.identifier, skip more⟩
    | some segment =>
      have : segment.rest.length < text.length := by
        have := segment.shorter
        have := length_skip_le more
        have := length_skip_le text
        simp only [point, List.length_cons] at this
        omega
      (segments segment.rest).map fun (names, after) => (segment.value :: names, after)
  | _ => .ok ([], text)
termination_by text.length

theorem length_digits?
    {text whole rest : List Char}
    (read : digits? text = some (whole, rest)) :
    rest.length < text.length := by
  have parts : text.takeWhile Char.isDigit ++ text.dropWhile Char.isDigit = text :=
    List.takeWhile_append_dropWhile
  have lengths := congrArg List.length parts
  rw [List.length_append] at lengths
  unfold digits? at read
  simp only [List.isEmpty_iff] at read
  split at read
  next => contradiction
  next filled =>
    have wholeLength := List.length_pos_iff.2 filled
    split at read
    next more point =>
      rw [point, List.length_cons] at lengths
      have moreLength := (List.dropWhile_sublist (l := more) Char.isDigit).length_le
      split at read
      next =>
        obtain ⟨rfl, rfl⟩ := Prod.mk.inj (Option.some.inj read)
        rw [point, List.length_cons]
        omega
      next =>
        obtain ⟨rfl, rfl⟩ := Prod.mk.inj (Option.some.inj read)
        omega
    next =>
      obtain ⟨rfl, rfl⟩ := Prod.mk.inj (Option.some.inj read)
      omega

/-- What was read before does not lengthen the rest. -/
theorem length_lt_of_map_eq_ok
    {ε α β : Type}
    {outcome : Except ε (α × List Char)}
    {join : α → β}
    {size : Nat}
    (shorter : ∀ {value rest}, outcome = .ok (value, rest) → rest.length < size)
    {value : β}
    {rest : List Char}
    (read : (outcome.map fun (found, after) => (join found, after)) = .ok (value, rest)) :
    rest.length < size := by
  cases outcome with
  | error error => contradiction
  | ok found =>
      obtain ⟨_, rfl⟩ := Prod.mk.inj (Except.ok.inj read)
      exact shorter rfl

section quotedContent

variable {quote : Char}

theorem quotedContent_quote (rest : List Char) :
    quotedContent quote (quote :: rest) = .ok ([], rest) := by
  rw [quotedContent.eq_def]
  exact if_pos rfl

theorem quotedContent_backslash (noQuote : '\\' ≠ quote) :
    quotedContent quote ['\\'] = .error ['\\'] := by
  rw [quotedContent.eq_def]
  simp only [noQuote, if_false, if_true]

theorem quotedContent_escaped
    (noQuote : '\\' ≠ quote)
    (next : Char)
    (more : List Char) :
    quotedContent quote ('\\' :: next :: more) =
      (quotedContent quote more).map fun (content, after) => (next :: content, after) := by
  rw [quotedContent.eq_def]
  simp only [noQuote, if_false, if_true]

theorem quotedContent_plain
    {c : Char}
    (noQuote : c ≠ quote)
    (noEscape : c ≠ '\\')
    (rest : List Char) :
    quotedContent quote (c :: rest) =
      (quotedContent quote rest).map fun (content, after) => (c :: content, after) := by
  rw [quotedContent.eq_def]
  simp only [noQuote, noEscape, if_false]

/-- Quoted content ends with the text, at its quote or behind a backslash that nothing follows;
else it goes on behind what a backslash escapes or behind its first character. -/
@[elab_as_elim]
theorem quotedContent_induction
    (quote : Char)
    {motive : List Char → Prop}
    (nil : motive [])
    (closed : ∀ rest, motive (quote :: rest))
    (unfinished : '\\' ≠ quote → motive ['\\'])
    (escaped : ∀ next more, '\\' ≠ quote → motive more → motive ('\\' :: next :: more))
    (plain : ∀ c rest, c ≠ quote → c ≠ '\\' → motive rest → motive (c :: rest))
    (text : List Char) :
    motive text :=
  quotedContent.induct quote motive nil closed unfinished escaped plain text

theorem length_quotedContent
    {text content rest : List Char}
    (read : quotedContent quote text = .ok (content, rest)) :
    rest.length < text.length := by
  induction text using quotedContent_induction quote generalizing content rest with
  | nil => contradiction
  | closed after =>
      rw [quotedContent_quote] at read
      obtain ⟨_, rfl⟩ := Prod.mk.inj (Except.ok.inj read)
      exact Nat.lt_succ_self _
  | unfinished noQuote =>
      rw [quotedContent_backslash noQuote] at read
      contradiction
  | escaped next more noQuote inductionHypothesis =>
      rw [quotedContent_escaped noQuote] at read
      have shorter := length_lt_of_map_eq_ok inductionHypothesis read
      rw [List.length_cons, List.length_cons]
      omega
  | plain c more noQuote noEscape inductionHypothesis =>
      rw [quotedContent_plain noQuote noEscape] at read
      exact Nat.lt_succ_of_lt (length_lt_of_map_eq_ok inductionHypothesis read)

end quotedContent

section segments

variable {text : List Char}

theorem segments_of_no_point (noPoint : ∀ more, skip text ≠ '.' :: more) :
    segments text = .ok ([], text) := by
  rw [segments]
  split
  next more point => exact absurd point (noPoint more)
  next => rfl

section point

variable {more : List Char} (point : skip text = '.' :: more)
include point

theorem segments_of_no_name (noName : identifier? (skip more) = none) :
    segments text = .error ⟨.identifier, skip more⟩ := by
  rw [segments]
  split
  next other found =>
    obtain rfl := (List.cons.inj (point.symm.trans found)).2
    rw [noName]
  next noPoint => exact absurd point (noPoint more)

theorem segments_of_name
    {segment : Reading (List Char) (skip more)}
    (read : identifier? (skip more) = some segment) :
    segments text =
      (segments segment.rest).map fun (names, after) => (segment.value :: names, after) := by
  rw [segments]
  split
  next other found =>
    obtain rfl := (List.cons.inj (point.symm.trans found)).2
    rw [read]
  next noPoint => exact absurd point (noPoint more)

end point

/-- A path ends where no point follows, stops being one where no name follows a point, and goes on
behind the name otherwise. -/
@[elab_as_elim]
theorem segments_induction
    {motive : List Char → Prop}
    (ends : ∀ text, (∀ more, skip text ≠ '.' :: more) → motive text)
    (stops : ∀ text more, skip text = '.' :: more → identifier? (skip more) = none → motive text)
    (goesOn : ∀ text more segment, skip text = '.' :: more →
      identifier? (skip more) = some segment → segment.rest.length < text.length →
      motive segment.rest → motive text)
    (text : List Char) :
    motive text :=
  segments.induct motive stops
    (fun text more point segment found => goesOn text more segment point found) ends text

theorem length_segments
    {names : List (List Char)}
    {rest : List Char}
    (read : segments text = .ok (names, rest)) :
    rest.length ≤ text.length := by
  induction text using segments_induction generalizing names rest with
  | ends text noPoint =>
      rw [segments_of_no_point noPoint] at read
      obtain ⟨_, rfl⟩ := Prod.mk.inj (Except.ok.inj read)
      exact Nat.le_refl _
  | stops text more point noName =>
      rw [segments_of_no_name point noName] at read
      contradiction
  | goesOn text more segment point found shorter inductionHypothesis =>
      rw [segments_of_name point found] at read
      have innerShorter : ∀ {names rest}, segments segment.rest = .ok (names, rest) →
          rest.length < segment.rest.length + 1 :=
        fun readInner => Nat.lt_succ_of_le (inductionHypothesis readInner)
      have bound := length_lt_of_map_eq_ok innerShorter read
      omega

end segments

/-- The words that are literals and no fields. -/
def keyword? (name : List Char) : Option Literal :=
  if name = ['t', 'r', 'u', 'e'] then
    some (.bool true)
  else if name = ['f', 'a', 'l', 's', 'e'] then
    some (.bool false)
  else if name = ['n', 'u', 'l', 'l'] then
    some .null
  else
    none

/-- An operand without operators or parentheses: a literal or a field path. -/
def atom (text : List Char) : Except Failure (Reading Tree text) :=
  match number : digits? text with
  | some (digits, rest) => .ok ⟨.literal (.number digits), rest, length_digits? number⟩
  | none =>
    match identifier? text with
    | some name =>
      match keyword? name.value with
      | some value => .ok ⟨.literal value, name.rest, name.shorter⟩
      | none =>
        match path : segments name.rest with
        | .error failure => .error failure
        | .ok (names, rest) =>
          .ok ⟨.field name.value names, rest,
            Nat.lt_of_le_of_lt (length_segments path) name.shorter⟩
    | none =>
      match text with
      | [] => .error ⟨.operand, text⟩
      | quote :: inside =>
        if quote = '"' ∨ quote = '\'' then
          match content : quotedContent quote inside with
          | .error rest => .error ⟨.stringLiteral, rest⟩
          | .ok (content', rest) =>
            .ok ⟨.literal (.text content'), rest,
              Nat.lt_succ_of_lt (length_quotedContent content)⟩
        else
          .error ⟨.operand, text⟩

/-- The text after a word, if the word stands at its front. -/
def textAfter? : List Char → List Char → Option (List Char)
  | [], text => some text
  | _ :: _, [] => none
  | c :: word, d :: text => if c = d then textAfter? word text else none

theorem append_textAfter?
    {word text rest : List Char}
    (stands : textAfter? word text = some rest) :
    word ++ rest = text := by
  induction word generalizing text with
  | nil => simpa [textAfter?] using stands.symm
  | cons c word inductionHypothesis =>
      cases text with
      | nil => contradiction
      | cons d text =>
          rw [textAfter?] at stands
          split at stands
          next same => rw [List.cons_append, inductionHypothesis stands, same]
          next => contradiction

/-- The operator of a level at the front of a text, and the text after it. -/
def operator? (level : Level) (text : List Char) : Option (BinaryOp × List Char) :=
  level.operators.findSome? fun op =>
    (textAfter? op.symbol.toList text).map (op, ·)

theorem length_symbol_pos (op : BinaryOp) : 0 < op.symbol.toList.length := by
  cases op <;> decide

theorem length_operator?
    {level : Level}
    {text rest : List Char}
    {op : BinaryOp}
    (stands : operator? level text = some (op, rest)) :
    rest.length < text.length := by
  obtain ⟨found, _, mapped⟩ := List.exists_of_findSome?_eq_some stands
  obtain ⟨after, stripped, same⟩ := Option.map_eq_some_iff.1 mapped
  obtain ⟨rfl, rfl⟩ := Prod.mk.inj same
  have symbolLength := length_symbol_pos found
  rw [← append_textAfter? stripped, List.length_append]
  omega

mutual

/-- An operand: an atom, a parenthesized expression or an operand after an operator. -/
def operand (text : List Char) : Except Failure (Reading Tree text) :=
  match front : skip text with
  | '!' :: rest =>
    have shorter : rest.length < text.length := by
      have := length_skip_le text
      simp only [front, List.length_cons] at this
      omega
    (operand rest).map fun inner =>
      ⟨.unary .not inner.value, inner.rest, Nat.lt_trans inner.shorter shorter⟩
  | '-' :: rest =>
    have shorter : rest.length < text.length := by
      have := length_skip_le text
      simp only [front, List.length_cons] at this
      omega
    (operand rest).map fun inner =>
      ⟨.unary .negate inner.value, inner.rest, Nat.lt_trans inner.shorter shorter⟩
  | '(' :: rest =>
    have shorter : rest.length < text.length := by
      have := length_skip_le text
      simp only [front, List.length_cons] at this
      omega
    match chain .coalesce rest with
    | .error failure => .error failure
    | .ok inner =>
      match close : skip inner.rest with
      | ')' :: after =>
        .ok ⟨inner.value, after, by
          have := length_skip_le inner.rest
          have := inner.shorter
          simp only [close, List.length_cons] at *
          omega⟩
      | start => .error ⟨.closingParenthesis, start⟩
  | start =>
    (atom start).map fun inner =>
      ⟨inner.value, inner.rest,
        Nat.lt_of_lt_of_le inner.shorter (front ▸ length_skip_le text)⟩
termination_by (text.length, 0)

/-- What stands between the operators of a level. -/
def tighter (level : Level) (text : List Char) : Except Failure (Reading Tree text) :=
  match next : level.tighter? with
  | some inner =>
    have := Level.rank_tighter next
    chain inner text
  | none => operand text
termination_by (text.length, 2 * level.rank)
decreasing_by
  · exact Prod.Lex.right _ (by omega)
  · exact Prod.Lex.right _ (by have := level.rank_pos; omega)

/-- Operands of a level with the operators of the level between them. -/
def chain (level : Level) (text : List Char) : Except Failure (Reading Tree text) :=
  match tighter level text with
  | .error failure => .error failure
  | .ok first =>
    have := first.shorter
    match links level first.value first.rest with
    | .error failure => .error failure
    | .ok ⟨(whole, rest), shorter⟩ =>
      .ok ⟨whole, rest, Nat.lt_of_le_of_lt shorter first.shorter⟩
termination_by (text.length, 2 * level.rank + 1)

/-- The operators and operands that follow the first operand of a level. -/
def links (level : Level) (left : Tree) (text : List Char) :
    Except Failure { found : Tree × List Char // found.2.length ≤ text.length } :=
  match link : operator? level (skip text) with
  | none => .ok ⟨(left, text), Nat.le_refl _⟩
  | some (op, afterOp) =>
    have shorter : afterOp.length < text.length :=
      Nat.lt_of_lt_of_le (length_operator? link) (length_skip_le text)
    match tighter level afterOp with
    | .error failure => .error failure
    | .ok right =>
      have := right.shorter
      let joined := Tree.binary op left right.value
      if level.chains then
        match links level joined right.rest with
        | .error failure => .error failure
        | .ok ⟨found, shorter⟩ => .ok ⟨found, by omega⟩
      else
        .ok ⟨(joined, right.rest), by simp only; omega⟩
termination_by (text.length, 0)

end

/-- The tree of a whole text. -/
def tree (text : List Char) : Except Failure Tree :=
  match chain .coalesce text with
  | .error failure => .error failure
  | .ok found =>
    match skip found.rest with
    | [] => .ok found.value
    | rest => .error ⟨.trailingInput, rest⟩

end Reader

end CloudPlan.Expression
