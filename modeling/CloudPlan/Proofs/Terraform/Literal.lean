import CloudPlan.Terraform.Hcl
import CloudPlan.Proofs.Sequence

/-!
# Literals and keys

Between quotes every character of a text can be told from the escaped ones before it, and the
closing quote is the first one that is not escaped.  A key that stands without quotes ends
with the first space.  So both can be read off the beginning of what is left of a line.
-/

namespace CloudPlan.Terraform.Hcl

variable {rest leftRest rightRest : List Char}

/-! ## Escaped characters -/

/-- The character that is meant by the one behind a backslash. -/
def unescaped : Char → Char
  | 'n' => '\n'
  | 'r' => '\r'
  | 't' => '\t'
  | c => c

/-- A character that begins a template when a brace follows. -/
def IsSigil (c : Char) : Prop :=
  c = '$' ∨ c = '%'

/-- The ways in which a character stands in a literal. -/
inductive Escapes (c : Char) (next : Option Char) : List Char → Prop
  | behind {letter : Char} : unescaped letter = c → Escapes c next ['\\', letter]
  | doubled : IsSigil c → next = some '{' → Escapes c next [c, c]
  | plain : c ≠ '"' → c ≠ '\\' → ¬(IsSigil c ∧ next = some '{') → Escapes c next [c]

theorem escapes_escape (c : Char) (next : Option Char) : Escapes c next (escape c next) := by
  unfold escape
  split
  case h_1 | h_2 | h_3 | h_4 | h_5 => exact .behind rfl
  case h_6 notBackslash notQuote _ _ _ =>
    split
    next introduces => exact .doubled introduces.1 introduces.2
    next ordinary => exact .plain notQuote notBackslash ordinary

/-- A literal goes on with a brace only where its text does. -/
theorem head?_eq_of_escapeAll
    {chars : List Char}
    (isBrace : (escapeAll chars ++ '"' :: rest).head? = some '{') :
    chars.head? = some '{' := by
  cases chars with
  | nil => simp [escapeAll] at isBrace
  | cons c more =>
      have escapes := escapes_escape c more.head?
      rw [escapeAll] at isBrace
      generalize escape c more.head? = written at escapes isBrace
      cases escapes with
      | behind => simp at isBrace
      | doubled => simpa using isBrace
      | plain => simpa using isBrace

/-- What begins a template does not stand in a literal unless it is doubled. -/
theorem escapeAll_ne_template
    {sigil : Char}
    (isSigil : IsSigil sigil)
    (chars more : List Char) :
    escapeAll chars ++ '"' :: rest ≠ sigil :: '{' :: more := by
  have notBackslash : sigil ≠ '\\' := by rcases isSigil with rfl | rfl <;> decide
  have notBrace : sigil ≠ '{' := by rcases isSigil with rfl | rfl <;> decide
  have notQuote : sigil ≠ '"' := by rcases isSigil with rfl | rfl <;> decide
  intro same
  cases chars with
  | nil => exact notQuote (List.cons_eq_cons.1 same).1.symm
  | cons c others =>
      have escapes := escapes_escape c others.head?
      rw [escapeAll, List.append_assoc] at same
      generalize escape c others.head? = written at escapes same
      cases escapes with
      | behind => exact notBackslash (List.cons_eq_cons.1 same).1.symm
      | doubled =>
          obtain ⟨rfl, sameRest⟩ := List.cons_eq_cons.1 same
          exact notBrace (List.cons_eq_cons.1 sameRest).1
      | plain _ _ ordinary =>
          obtain ⟨rfl, sameRest⟩ := List.cons_eq_cons.1 same
          have isBrace : (escapeAll others ++ '"' :: rest).head? = some '{' := by
            rw [show escapeAll others ++ '"' :: rest = '{' :: more from sameRest]
            rfl
          -- The sigil would stand before a brace in the text, and so be doubled.
          exact ordinary ⟨isSigil, head?_eq_of_escapeAll isBrace⟩

/-! ## Reading literals -/

/-- The first character of what is left of a literal, and what follows it; none at the end. -/
def character? : List Char → Option (Char × List Char)
  | [] => none
  | '"' :: _ => none
  | '\\' :: c :: rest => some (unescaped c, rest)
  | '$' :: '$' :: '{' :: rest => some ('$', '{' :: rest)
  | '%' :: '%' :: '{' :: rest => some ('%', '{' :: rest)
  | c :: rest => some (c, rest)

theorem character?_doubled
    {sigil : Char}
    (isSigil : IsSigil sigil) :
    character? (sigil :: sigil :: '{' :: rest) = some (sigil, '{' :: rest) := by
  rcases isSigil with rfl | rfl <;> rfl

theorem character?_plain
    {c : Char}
    (notQuote : c ≠ '"')
    (notBackslash : c ≠ '\\')
    (noTemplate : IsSigil c → ∀ more, rest ≠ c :: '{' :: more) :
    character? (c :: rest) = some (c, rest) := by
  unfold character?
  split
  next impossible => contradiction
  next isQuote => exact absurd (List.cons_eq_cons.1 isQuote).1 notQuote
  next isBackslash => exact absurd (List.cons_eq_cons.1 isBackslash).1 notBackslash
  next isDoubled =>
    obtain ⟨rfl, isTemplate⟩ := List.cons_eq_cons.1 isDoubled
    exact absurd isTemplate (noTemplate (Or.inl rfl) _)
  next isDoubled =>
    obtain ⟨rfl, isTemplate⟩ := List.cons_eq_cons.1 isDoubled
    exact absurd isTemplate (noTemplate (Or.inr rfl) _)
  next isOther =>
    obtain ⟨rfl, rfl⟩ := List.cons_eq_cons.1 isOther
    rfl

/-- Of an escaped text the first character is read. -/
theorem character?_escapeAll (c : Char) (chars : List Char) :
    character? (escapeAll (c :: chars) ++ '"' :: rest) =
      some (c, escapeAll chars ++ '"' :: rest) := by
  have escapes := escapes_escape c chars.head?
  rw [escapeAll, List.append_assoc]
  generalize escape c chars.head? = written at escapes
  cases escapes with
  | @behind letter isMeant =>
      subst isMeant
      rfl
  | doubled isSigil isBrace =>
      obtain ⟨more, rfl⟩ := List.head?_eq_some_iff.1 isBrace
      have braceStays : escapeAll ('{' :: more) = '{' :: escapeAll more := rfl
      rw [braceStays]
      exact character?_doubled isSigil
  | plain notQuote notBackslash ordinary =>
      exact character?_plain notQuote notBackslash fun isSigil =>
        escapeAll_ne_template isSigil chars

/-- An escaped text ends where the quotes close. -/
theorem escapeAll_unique
    {left right : List Char}
    (same : escapeAll left ++ '"' :: leftRest = escapeAll right ++ '"' :: rightRest) :
    left = right ∧ leftRest = rightRest := by
  induction left generalizing right with
  | nil =>
      cases right with
      | nil => exact ⟨rfl, (List.cons_eq_cons.1 same).2⟩
      | cons c more =>
          have read := congrArg character? same
          rw [character?_escapeAll] at read
          contradiction
  | cons c more inductionHypothesis =>
      have read := congrArg character? same
      rw [character?_escapeAll] at read
      cases right with
      | nil => contradiction
      | cons other others =>
          rw [character?_escapeAll, Option.some.injEq, Prod.mk.injEq] at read
          obtain ⟨rfl, sameRest⟩ := read
          obtain ⟨rfl, restsSame⟩ := inductionHypothesis sameRest
          exact ⟨rfl, restsSame⟩

theorem toList_quote (text : String) :
    (quote text).toList = '"' :: (escapeAll text.toList ++ ['"']) := by
  rw [quote, String.toList_ofList, List.cons_append]

/-- A quoted text can be read off the beginning of what is left of a line. -/
theorem quote_unique
    {left right : String}
    (same : (quote left).toList ++ leftRest = (quote right).toList ++ rightRest) :
    left = right ∧ leftRest = rightRest := by
  simp only [toList_quote, List.cons_append, List.append_assoc, List.nil_append,
    List.cons.injEq, true_and] at same
  obtain ⟨sameChars, restsSame⟩ := escapeAll_unique same
  exact ⟨String.toList_inj.1 sameChars, restsSame⟩

/-- Line breaks and tabs do not stand in an escaped text. -/
theorem not_mem_escapeAll
    {c : Char}
    (isLayout : c ∈ ['\n', '\r', '\t'])
    (chars : List Char) :
    c ∉ escapeAll chars := by
  induction chars with
  | nil => simp [escapeAll]
  | cons first more inductionHypothesis =>
      rw [escapeAll, List.mem_append]
      apply not_or.2
      refine ⟨?_, inductionHypothesis⟩
      unfold escape
      split
      case h_1 | h_2 | h_3 | h_4 | h_5 =>
        intro member
        simp only [List.mem_cons, List.not_mem_nil, or_false] at isLayout member
        rcases isLayout with rfl | rfl | rfl <;> simp at member
      case h_6 notNewline notReturn notTab =>
        have different : c ≠ first := by
          rintro rfl
          simp only [List.mem_cons, List.not_mem_nil, or_false] at isLayout
          rcases isLayout with isNewline | isReturn | isTab
          · exact notNewline isNewline
          · exact notReturn isReturn
          · exact notTab isTab
        split <;> simp [different]

/-- There are no line breaks in a literal. -/
theorem newline_not_mem_quote (text : String) : '\n' ∉ (quote text).toList := by
  simp [toList_quote, not_mem_escapeAll]

/-! ## Plain texts -/

/-- The characters that stand in a literal only behind a backslash. -/
def behindBackslash : List Char :=
  ['\\', '"', '\n', '\r', '\t']

/-- Nothing in a text is escaped: it has no character that needs a backslash, and no template
begins in it. -/
structure IsPlain (chars : List Char) : Prop where
  /-- None of its characters needs a backslash. -/
  direct : ∀ c ∈ behindBackslash, c ∉ chars
  /-- No sigil of it stands before a brace. -/
  noTemplate : ∀ sigil, IsSigil sigil → ¬[sigil, '{'] <:+: chars

theorem isPlain_cons_iff (c : Char) (chars : List Char) :
    IsPlain (c :: chars) ↔
      (c ∉ behindBackslash ∧ ¬(IsSigil c ∧ chars.head? = some '{')) ∧ IsPlain chars := by
  have begins (sigil : Char) :
      [sigil, '{'] <+: c :: chars ↔ sigil = c ∧ chars.head? = some '{' := by
    cases chars <;> simp [List.cons_prefix_cons, eq_comm]
  constructor
  · rintro ⟨direct, noTemplate⟩
    refine ⟨⟨fun escaped => direct c escaped List.mem_cons_self, ?_⟩, ?_, ?_⟩
    · rintro ⟨isSigil, beforeBrace⟩
      exact noTemplate c isSigil ((begins c).2 ⟨rfl, beforeBrace⟩).isInfix
    · exact fun other escaped member => direct other escaped (List.mem_cons_of_mem c member)
    · exact fun sigil isSigil inside => noTemplate sigil isSigil (List.infix_cons inside)
  · rintro ⟨⟨notEscaped, noSigil⟩, direct, noTemplate⟩
    constructor
    · rintro other escaped (_ | ⟨_, member⟩)
      · exact notEscaped escaped
      · exact direct other escaped member
    · intro sigil isSigil inside
      rcases List.infix_cons_iff.1 inside with atStart | later
      · obtain ⟨rfl, beforeBrace⟩ := (begins sigil).1 atStart
        exact noSigil ⟨isSigil, beforeBrace⟩
      · exact noTemplate sigil isSigil later

theorem escape_eq_singleton_iff (c : Char) (next : Option Char) :
    escape c next = [c] ↔ c ∉ behindBackslash ∧ ¬(IsSigil c ∧ next = some '{') := by
  unfold escape
  split
  case h_1 | h_2 | h_3 | h_4 | h_5 => simp [behindBackslash]
  case h_6 notBackslash notQuote notNewline notReturn notTab =>
    have notEscaped : c ∉ behindBackslash := by
      simp only [behindBackslash, List.mem_cons, List.not_mem_nil, or_false, not_or]
      exact ⟨notBackslash, notQuote, notNewline, notReturn, notTab⟩
    simp only [notEscaped, not_false_eq_true, true_and, IsSigil]
    split
    next introduces => simp [introduces]
    next ordinary => simp [ordinary]

theorem length_le_escapeAll (chars : List Char) : chars.length ≤ (escapeAll chars).length := by
  induction chars with
  | nil => exact Nat.zero_le _
  | cons c rest inductionHypothesis =>
      have escapes := escapes_escape c rest.head?
      rw [escapeAll, List.length_append, List.length_cons]
      generalize escape c rest.head? = written at escapes
      cases escapes <;> simp only [List.length_cons, List.length_nil] <;> omega

/-- Nothing in a text is escaped exactly when it stands in a literal as it is. -/
theorem escapeAll_eq_self_iff (chars : List Char) : escapeAll chars = chars ↔ IsPlain chars := by
  induction chars with
  | nil => exact iff_of_true rfl ⟨by simp, by simp⟩
  | cons c rest inductionHypothesis =>
      rw [isPlain_cons_iff, ← escape_eq_singleton_iff, ← inductionHypothesis, escapeAll]
      constructor
      · intro same
        -- Escaping only lengthens, so the rest cannot make up for a longer first character.
        have longer := length_le_escapeAll rest
        have lengths := congrArg List.length same
        have escapes := escapes_escape c rest.head?
        rw [List.length_append, List.length_cons] at lengths
        generalize escape c rest.head? = written at escapes same lengths
        cases escapes with
        | behind | doubled =>
            simp only [List.length_cons, List.length_nil] at lengths
            omega
        | plain => exact ⟨rfl, (List.cons_eq_cons.1 same).2⟩
      · rintro ⟨single, restSame⟩
        rw [single, restSame, List.singleton_append]

/-- Between quotes a text is a literal of itself exactly when nothing in it is escaped. -/
theorem quote_eq_between_quotes_iff (text : String) :
    quote text = "\"" ++ text ++ "\"" ↔ IsPlain text.toList := by
  rw [← String.toList_inj, toList_quote, ← escapeAll_eq_self_iff]
  simp

/-! ## Keys -/

theorem isIdentifier_iff (text : String) :
    isIdentifier text = true ↔
      ∃ c more, text.toList = c :: more ∧ isInitial c = true ∧
        ∀ other ∈ more, isMedial other = true := by
  unfold isIdentifier
  split
  next isEmpty => simp [isEmpty]
  next c more isText => simp [isText]

theorem isMedial_of_isInitial {c : Char} (isFirst : isInitial c = true) : isMedial c = true := by
  simp only [isInitial, isMedial, Char.isAlphanum, Bool.or_eq_true] at isFirst ⊢
  tauto

theorem isMedial_of_mem
    {text : String}
    (isName : isIdentifier text = true) :
    ∀ c ∈ text.toList, isMedial c = true := by
  obtain ⟨first, more, isText, isFirst, others⟩ := (isIdentifier_iff text).1 isName
  rw [isText]
  exact List.forall_mem_cons.2 ⟨isMedial_of_isInitial isFirst, others⟩

theorem key_of_isIdentifier
    {text : String}
    (isName : isIdentifier text = true) :
    key text = text := by
  rw [key, if_pos isName]

/-- An identifier and a quoted text do not begin alike. -/
theorem identifier_ne_quote
    {text other : String}
    (isName : isIdentifier text = true) :
    text.toList ++ leftRest ≠ (quote other).toList ++ rightRest := by
  obtain ⟨first, more, isText, isFirst, -⟩ := (isIdentifier_iff text).1 isName
  rw [isText, toList_quote]
  intro same
  rw [(List.cons_eq_cons.1 same).1] at isFirst
  exact absurd isFirst (by decide)

/-- A key can be read off the beginning of a line in which a space follows it. -/
theorem key_unique
    {left right : String}
    (same : (key left).toList ++ ' ' :: leftRest = (key right).toList ++ ' ' :: rightRest) :
    left = right ∧ leftRest = rightRest := by
  rw [key, key] at same
  split at same
  next leftName =>
    split at same
    next rightName =>
      have spaceEnds (others : List Char) :
          ∀ next ∈ (' ' :: others).head?, ¬isMedial next = true := by
        rintro next ⟨⟩
        decide
      obtain ⟨sameChars, restsSame⟩ := eq_of_append_eq_append_of_run
        (isMedial_of_mem leftName) (isMedial_of_mem rightName) (spaceEnds _) (spaceEnds _) same
      exact ⟨String.toList_inj.1 sameChars, (List.cons_eq_cons.1 restsSame).2⟩
    next => exact absurd same (identifier_ne_quote leftName)
  next =>
    split at same
    next rightName => exact absurd same.symm (identifier_ne_quote rightName)
    next =>
      obtain ⟨sameText, restsSame⟩ := quote_unique same
      exact ⟨sameText, (List.cons_eq_cons.1 restsSame).2⟩

theorem newline_not_mem_key (text : String) : '\n' ∉ (key text).toList := by
  rw [key]
  split
  next isName =>
    intro member
    exact absurd (isMedial_of_mem isName _ member) (by decide)
  next => exact newline_not_mem_quote text

end CloudPlan.Terraform.Hcl
