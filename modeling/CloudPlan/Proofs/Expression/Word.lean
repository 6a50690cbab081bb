import CloudPlan.Expression.Reader
import CloudPlan.Proofs.Expression.Writing
import CloudPlan.Proofs.Outcome
import CloudPlan.Proofs.Sequence
import Mathlib.Data.List.TakeWhile

/-!
# Reading words

Each reader of a word takes exactly a written word from the front of a text, and it takes
all of a word that the text behind it does not go on with.
-/

namespace CloudPlan.Expression.Reader

variable {text rest : List Char}

/-! ## Blanks -/

theorem isBlank_iff (c : Char) : isBlank c = true ↔ c ∈ [' ', '\t', '\r', '\n'] := by
  simp [isBlank, or_assoc]

/-- Nothing but blanks is skipped. -/
theorem exists_blanks_append_skip (text : List Char) :
    ∃ before, IsBlanks before ∧ text = before ++ skip text := by
  refine ⟨text.takeWhile isBlank, fun c member => ?_, List.takeWhile_append_dropWhile.symm⟩
  exact (isBlank_iff c).1 (List.mem_takeWhile_imp member)

theorem skip_append
    {before : List Char}
    (blanks : IsBlanks before)
    (text : List Char) :
    skip (before ++ text) = skip text :=
  List.dropWhile_append_of_pos fun c member => (isBlank_iff c).2 (blanks c member)

theorem skip_cons
    {c : Char}
    (filled : isBlank c = false)
    (rest : List Char) :
    skip (c :: rest) = c :: rest :=
  List.dropWhile_cons_of_neg (by simp [filled])

theorem skip_eq_nil_iff : skip text = [] ↔ IsBlanks text := by
  simp only [skip, List.dropWhile_eq_nil_iff, isBlank_iff, IsBlanks]

/-- What stands behind the first character that is not skipped is shorter than the text. -/
theorem length_lt_of_skip_eq_cons
    {c : Char}
    (front : skip text = c :: rest) :
    rest.length < text.length := by
  have skipped := length_skip_le text
  rw [front, List.length_cons] at skipped
  exact skipped

/-! ## Ends of words -/

/-- The characters that may stand behind an operand, blanks apart. -/
def followers : List Char :=
  [')', '?', '|', '&', '=', '!', '<', '>', '+', '-', '*', '/', '%']

/-- A text does not go on with an operand that ends in front of it. -/
def Stops (text : List Char) : Prop :=
  ∀ c ∈ (skip text).head?, c ∈ followers

/-- The first character of a text does not go on with an identifier in front of it. -/
def EndsName (text : List Char) : Prop :=
  ∀ c ∈ text.head?, continuesIdentifier c = false

/-- What stops an operand starts with a blank or a follower. -/
theorem Stops.mem_of_head
    (stops : Stops text) :
    ∀ c ∈ text.head?, c ∈ [' ', '\t', '\r', '\n'] ++ followers := by
  intro c first
  obtain ⟨rest, rfl⟩ := List.head?_eq_some_iff.1 first
  rw [List.mem_append]
  by_cases blank : isBlank c = true
  · exact Or.inl ((isBlank_iff c).1 blank)
  · refine Or.inr (stops c ?_)
    rw [skip_cons (by simpa using blank)]
    rfl

theorem Stops.endsName
    (stops : Stops text) :
    EndsName text := by
  have noneContinues : ∀ c ∈ [' ', '\t', '\r', '\n'] ++ followers,
      continuesIdentifier c = false := by simp [followers, continuesIdentifier]
  exact fun c first => noneContinues c (stops.mem_of_head c first)

/-- What stops an operand goes on with no number: neither with a digit nor with a point. -/
theorem Stops.endsNumber
    (stops : Stops text) :
    ∀ c ∈ text.head?, c.isDigit = false ∧ c ≠ '.' := by
  have noneContinues : ∀ c ∈ [' ', '\t', '\r', '\n'] ++ followers,
      c.isDigit = false ∧ c ≠ '.' := by simp [followers]
  exact fun c first => noneContinues c (stops.mem_of_head c first)

/-! ## Identifiers -/

theorem identifier?_append
    {name : List Char}
    (isIdentifier : IsIdentifier name)
    (ends : EndsName rest) :
    ∃ shorter, identifier? (name ++ rest) = some ⟨name, rest, shorter⟩ := by
  cases isIdentifier with
  | @intro c more starts continues =>
      have inside : ∀ d ∈ more, continuesIdentifier d = true := by
        simpa [continuesIdentifier] using continues
      refine ⟨by simp only [List.cons_append, List.length_cons, List.length_append]; omega, ?_⟩
      simp only [List.cons_append, identifier?]
      rw [if_pos (by simpa [startsIdentifier] using starts)]
      simp only [takeWhile_append_stop inside ends, dropWhile_append_stop inside ends]

theorem isIdentifier_of_identifier?
    {reading : Reading (List Char) text}
    (read : identifier? text = some reading) :
    IsIdentifier reading.value ∧ text = reading.value ++ reading.rest := by
  unfold identifier? at read
  split at read
  next => contradiction
  next c more =>
    split at read
    next starts =>
      obtain rfl := Option.some.inj read
      refine ⟨⟨by simpa [startsIdentifier] using starts, fun d member => ?_⟩, ?_⟩
      · simpa [continuesIdentifier] using List.mem_takeWhile_imp member
      · simp
    next => contradiction

theorem identifier?_eq_none
    {c : Char}
    (other : startsIdentifier c = false)
    (rest : List Char) :
    identifier? (c :: rest) = none := by
  simp [identifier?, other]

theorem keyword?_eq_none_iff (name : List Char) : keyword? name = none ↔ name ∉ keywords := by
  simp only [keyword?, keywords, List.mem_cons, List.not_mem_nil, or_false, not_or]
  split_ifs <;> simp_all

/-! ## Numbers -/

theorem digits?_append
    {digits : List Char}
    (isNumber : IsNumber digits)
    (stops : Stops rest) :
    digits? (digits ++ rest) = some (digits, rest) := by
  have outside : ∀ c ∈ rest.head?, c.isDigit = false :=
    fun c first => (stops.endsNumber c first).1
  rcases isNumber with ⟨filled, whole⟩ | ⟨whole, fraction, ⟨wholeFilled, wholeDigits⟩,
    ⟨fractionFilled, fractionDigits⟩, rfl⟩
  · unfold digits?
    rw [takeWhile_append_stop whole outside, dropWhile_append_stop whole outside,
      if_neg (by simpa using filled)]
    split
    next => exact absurd rfl (stops.endsNumber '.' rfl).2
    next => rfl
  · have point : ∀ c ∈ ('.' :: (fraction ++ rest)).head?, c.isDigit = false := by simp
    unfold digits?
    rw [List.append_assoc, List.cons_append, takeWhile_append_stop wholeDigits point,
      dropWhile_append_stop wholeDigits point, if_neg (by simpa using wholeFilled)]
    simp only [takeWhile_append_stop fractionDigits outside,
      dropWhile_append_stop fractionDigits outside]
    rw [if_neg (by simpa using fractionFilled)]

theorem isNumber_of_digits?
    {digits : List Char}
    (read : digits? text = some (digits, rest)) :
    IsNumber digits ∧ text = digits ++ rest := by
  have isDigits : ∀ more : List Char, more.takeWhile Char.isDigit ≠ [] →
      IsDigits (more.takeWhile Char.isDigit) :=
    fun more filled => ⟨filled, fun c => List.mem_takeWhile_imp⟩
  have parts : text.takeWhile Char.isDigit ++ text.dropWhile Char.isDigit = text :=
    List.takeWhile_append_dropWhile
  unfold digits? at read
  simp only [List.isEmpty_iff] at read
  split at read
  next => contradiction
  next filled =>
    split at read
    next more point =>
      have moreParts : more.takeWhile Char.isDigit ++ more.dropWhile Char.isDigit = more :=
        List.takeWhile_append_dropWhile
      split at read
      next =>
        obtain ⟨rfl, rfl⟩ := Prod.mk.inj (Option.some.inj read)
        exact ⟨Or.inl (isDigits text filled), parts.symm⟩
      next fractionFilled =>
        obtain ⟨rfl, rfl⟩ := Prod.mk.inj (Option.some.inj read)
        refine ⟨Or.inr ⟨_, _, isDigits text filled, isDigits more fractionFilled, rfl⟩, ?_⟩
        rw [List.append_assoc, List.cons_append, moreParts, ← point, parts]
    next =>
      obtain ⟨rfl, rfl⟩ := Prod.mk.inj (Option.some.inj read)
      exact ⟨Or.inl (isDigits text filled), parts.symm⟩

theorem digits?_eq_none
    {c : Char}
    (other : c.isDigit = false)
    (rest : List Char) :
    digits? (c :: rest) = none := by
  simp [digits?, other]

/-! ## Quoted texts -/

theorem quotedContent_append
    {quote : Char}
    (isQuote : quote = '"' ∨ quote = '\'')
    {content inside : List Char}
    (written : ContentWrittenAs quote content inside)
    (rest : List Char) :
    quotedContent quote (inside ++ quote :: rest) = .ok (content, rest) := by
  have noBackslash : '\\' ≠ quote := by rcases isQuote with rfl | rfl <;> decide
  induction written with
  | nil => rw [List.nil_append, quotedContent_quote]
  | plain noQuote noEscape _ inductionHypothesis =>
      rw [List.cons_append, quotedContent_plain noQuote noEscape, inductionHypothesis]
      rfl
  | escaped _ inductionHypothesis =>
      rw [List.cons_append, List.cons_append, quotedContent_escaped noBackslash,
        inductionHypothesis]
      rfl

theorem contentWrittenAs_of_quotedContent
    {quote : Char}
    {content : List Char}
    (read : quotedContent quote text = .ok (content, rest)) :
    ∃ inside, ContentWrittenAs quote content inside ∧ text = inside ++ quote :: rest := by
  induction text using quotedContent_induction quote generalizing content rest with
  | nil => contradiction
  | closed after =>
      rw [quotedContent_quote] at read
      obtain ⟨rfl, rfl⟩ := Prod.mk.inj (Except.ok.inj read)
      exact ⟨[], .nil, rfl⟩
  | unfinished noQuote =>
      rw [quotedContent_backslash noQuote] at read
      contradiction
  | escaped next more noQuote inductionHypothesis =>
      rw [quotedContent_escaped noQuote] at read
      obtain ⟨⟨inner, after⟩, found, joined⟩ := map_eq_ok_iff.1 read
      obtain ⟨rfl, rfl⟩ := Prod.mk.inj joined
      obtain ⟨inside, written, rfl⟩ := inductionHypothesis found
      exact ⟨'\\' :: next :: inside, .escaped written, rfl⟩
  | plain c more noQuote noEscape inductionHypothesis =>
      rw [quotedContent_plain noQuote noEscape] at read
      obtain ⟨⟨inner, after⟩, found, joined⟩ := map_eq_ok_iff.1 read
      obtain ⟨rfl, rfl⟩ := Prod.mk.inj joined
      obtain ⟨inside, written, rfl⟩ := inductionHypothesis found
      exact ⟨c :: inside, .plain noQuote noEscape written, rfl⟩

/-! ## Paths -/

/-- Behind a name comes a point of its path, a blank or what stops the path. -/
theorem endsName_path
    {names : List (List Char)}
    {written : List Char}
    (path : PathWrittenAs names written)
    (stops : Stops rest) :
    EndsName (written ++ rest) := by
  cases path with
  | nil => exact stops.endsName
  | @cons before after name text names blanksBefore blanksAfter isIdentifier path =>
      cases before with
      | nil =>
          intro c first
          obtain rfl := Option.some.inj first
          decide
      | cons c more =>
          intro d first
          obtain rfl := Option.some.inj first
          have noneContinues : ∀ b ∈ [' ', '\t', '\r', '\n'], continuesIdentifier b = false := by
            simp [continuesIdentifier]
          exact noneContinues c (blanksBefore c List.mem_cons_self)

theorem skip_identifier
    {name : List Char}
    (isIdentifier : IsIdentifier name)
    (rest : List Char) :
    skip (name ++ rest) = name ++ rest := by
  cases isIdentifier with
  | @intro c more starts continues =>
      refine skip_cons (Bool.eq_false_iff.2 fun blank => ?_) (more ++ rest)
      have noneStarts : ∀ b ∈ [' ', '\t', '\r', '\n'], ¬ (b.isAlpha = true ∨ b = '_') := by
        simp
      exact noneStarts c ((isBlank_iff c).1 blank) starts

theorem segments_append
    {names : List (List Char)}
    {written : List Char}
    (path : PathWrittenAs names written)
    (stops : Stops rest) :
    segments (written ++ rest) = .ok (names, rest) := by
  induction path with
  | nil =>
      refine segments_of_no_point fun more point => ?_
      rw [List.nil_append] at point
      exact absurd (stops '.' (by rw [point]; rfl)) (by decide)
  | @cons before after name text names blanksBefore blanksAfter isIdentifier path
      inductionHypothesis =>
      have point : skip (before ++ '.' :: (after ++ (name ++ text)) ++ rest) =
          '.' :: (after ++ (name ++ (text ++ rest))) := by
        simp only [List.append_assoc, List.cons_append]
        rw [skip_append blanksBefore, skip_cons (by decide)]
      have read : ∃ shorter, identifier? (skip (after ++ (name ++ (text ++ rest)))) =
          some ⟨name, text ++ rest, shorter⟩ := by
        rw [skip_append blanksAfter, skip_identifier isIdentifier]
        exact identifier?_append isIdentifier (endsName_path path stops)
      obtain ⟨shorter, found⟩ := read
      rw [segments_of_name point found, inductionHypothesis]
      rfl

theorem pathWrittenAs_of_segments
    {names : List (List Char)}
    (read : segments text = .ok (names, rest)) :
    ∃ written, PathWrittenAs names written ∧ text = written ++ rest := by
  induction text using segments_induction generalizing names rest with
  | ends text noPoint =>
      rw [segments_of_no_point noPoint] at read
      obtain ⟨rfl, rfl⟩ := Prod.mk.inj (Except.ok.inj read)
      exact ⟨[], .nil, rfl⟩
  | stops text more point noName =>
      rw [segments_of_no_name point noName] at read
      contradiction
  | goesOn text more segment point found _ inductionHypothesis =>
      rw [segments_of_name point found] at read
      obtain ⟨⟨inner, after⟩, readInner, joined⟩ := map_eq_ok_iff.1 read
      obtain ⟨rfl, rfl⟩ := Prod.mk.inj joined
      obtain ⟨written, path, rest_eq⟩ := inductionHypothesis readInner
      obtain ⟨isIdentifier, more_eq⟩ := isIdentifier_of_identifier? found
      obtain ⟨before, blanksBefore, text_eq⟩ := exists_blanks_append_skip text
      obtain ⟨gap, blanksAfter, gap_eq⟩ := exists_blanks_append_skip more
      refine ⟨_, .cons blanksBefore blanksAfter isIdentifier path, ?_⟩
      calc text = before ++ '.' :: more := by rw [← point]; exact text_eq
        _ = before ++ '.' :: (gap ++ (segment.value ++ (written ++ after))) := by
          rw [← rest_eq, ← more_eq, ← gap_eq]
        _ = before ++ '.' :: (gap ++ (segment.value ++ written)) ++ after := by
          simp only [List.append_assoc, List.cons_append]

end CloudPlan.Expression.Reader
