import CloudPlan.Proofs.Terraform.Literal

/-!
# Literals read back

A reader that goes through a literal from left to right undoes the escapes and the doubled
sigils and copies every other character.  Of a quoted text it finds the text, whatever sigils
and braces stand next to each other there.
-/

namespace CloudPlan.Terraform.Hcl

/-- The text that is meant by what stands between quotes.  Nothing is meant where a template
begins. -/
def decode? : List Char → Option (List Char)
  | [] => some []
  | '\\' :: '\\' :: rest => (decode? rest).map ('\\' :: ·)
  | '\\' :: '"' :: rest => (decode? rest).map ('"' :: ·)
  | '\\' :: 'n' :: rest => (decode? rest).map ('\n' :: ·)
  | '\\' :: 'r' :: rest => (decode? rest).map ('\r' :: ·)
  | '\\' :: 't' :: rest => (decode? rest).map ('\t' :: ·)
  | '$' :: '$' :: '{' :: rest => (decode? rest).map ('$' :: '{' :: ·)
  | '%' :: '%' :: '{' :: rest => (decode? rest).map ('%' :: '{' :: ·)
  | '$' :: '{' :: _ => none
  | '%' :: '{' :: _ => none
  | c :: rest => (decode? rest).map (c :: ·)

/-- Read from left to right, characters hold no quote that is not behind a backslash. -/
inductive ClosesNowhere : List Char → Prop
  /-- There are no characters. -/
  | nil : ClosesNowhere []
  /-- A backslash takes the next character with it. -/
  | escaped (letter : Char) {rest : List Char} :
      ClosesNowhere rest → ClosesNowhere ('\\' :: letter :: rest)
  /-- A character that neither closes a literal nor escapes the next one. -/
  | plain {c : Char} {rest : List Char} :
      c ≠ '"' → c ≠ '\\' → ClosesNowhere rest → ClosesNowhere (c :: rest)

variable {rest : List Char}

/-! ## One character -/

theorem decode?_doubled
    {sigil : Char}
    (isSigil : IsSigil sigil) :
    decode? (sigil :: sigil :: '{' :: rest) = (decode? ('{' :: rest)).map (sigil :: ·) := by
  have brace : decode? ('{' :: rest) = (decode? rest).map ('{' :: ·) := rfl
  rw [brace, Option.map_map]
  rcases isSigil with rfl | rfl <;> rfl

theorem decode?_plain
    {c : Char}
    (notBackslash : c ≠ '\\')
    (noTemplate : IsSigil c → ∀ more, rest ≠ '{' :: more)
    (notDoubled : IsSigil c → ∀ more, rest ≠ c :: '{' :: more) :
    decode? (c :: rest) = (decode? rest).map (c :: ·) := by
  have noEscape {letter : Char} :
      ∀ more, c = '\\' → rest = letter :: more → False :=
    fun _ isBackslash _ => notBackslash isBackslash
  rw [decode?]
  · exact noEscape
  · exact noEscape
  · exact noEscape
  · exact noEscape
  · exact noEscape
  · rintro more rfl isDoubled
    exact notDoubled (Or.inl rfl) more isDoubled
  · rintro more rfl isDoubled
    exact notDoubled (Or.inr rfl) more isDoubled
  · rintro more rfl isBrace
    exact noTemplate (Or.inl rfl) more isBrace
  · rintro more rfl isBrace
    exact noTemplate (Or.inr rfl) more isBrace

/-- Of an escaped text the first character is read. -/
theorem decode?_escapeAll_cons
    (c : Char)
    (chars : List Char) :
    decode? (escapeAll (c :: chars)) = (decode? (escapeAll chars)).map (c :: ·) := by
  rw [escapeAll]
  unfold escape
  split
  case h_1 | h_2 | h_3 | h_4 | h_5 => rfl
  case h_6 notBackslash _ _ _ _ =>
    split
    next introduces =>
      obtain ⟨isSigil, isBrace⟩ := introduces
      obtain ⟨more, rfl⟩ := List.head?_eq_some_iff.1 isBrace
      have braceStays : escapeAll ('{' :: more) = '{' :: escapeAll more := rfl
      rw [braceStays]
      exact decode?_doubled isSigil
    next ordinary =>
      have copied : decode? (c :: escapeAll chars) = (decode? (escapeAll chars)).map (c :: ·) := by
        apply decode?_plain notBackslash
        · intro isSigil more isBrace
          have beforeQuote : (escapeAll chars ++ ['"']).head? = some '{' := by
            rw [isBrace]
            rfl
          exact ordinary ⟨isSigil, head?_eq_of_escapeAll beforeQuote⟩
        · intro isSigil more isDoubled
          have beforeQuote : escapeAll chars ++ ['"'] = c :: '{' :: (more ++ ['"']) := by
            rw [isDoubled]
            rfl
          exact escapeAll_ne_template isSigil chars _ beforeQuote
      exact copied

/-! ## Whole texts -/

/-- The reader undoes the escapes. -/
theorem decode?_escapeAll (chars : List Char) : decode? (escapeAll chars) = some chars := by
  induction chars with
  | nil => rfl
  | cons c more inductionHypothesis =>
      rw [decode?_escapeAll_cons, inductionHypothesis, Option.map_some]

/-- Every quote in an escaped text is behind a backslash. -/
theorem closesNowhere_escapeAll (chars : List Char) : ClosesNowhere (escapeAll chars) := by
  induction chars with
  | nil => exact .nil
  | cons c more inductionHypothesis =>
      have escapes := escapes_escape c more.head?
      rw [escapeAll]
      generalize escape c more.head? = written at escapes
      cases escapes with
      | behind => exact .escaped _ inductionHypothesis
      | doubled isSigil =>
          have notQuote : c ≠ '"' := by rcases isSigil with rfl | rfl <;> decide
          have notBackslash : c ≠ '\\' := by rcases isSigil with rfl | rfl <;> decide
          exact .plain notQuote notBackslash (.plain notQuote notBackslash inductionHypothesis)
      | plain notQuote notBackslash => exact .plain notQuote notBackslash inductionHypothesis

/-- Between the quotes of a literal there are no line breaks and no tabs, no quote that could
close it, and what is meant there is the text: the reader meets no template. -/
theorem quote_reads_back (text : String) :
    ∃ body, (quote text).toList = '"' :: (body ++ ['"']) ∧
      (∀ c ∈ ['\n', '\r', '\t'], c ∉ body) ∧
      ClosesNowhere body ∧
      decode? body = some text.toList := by
  refine ⟨escapeAll text.toList, toList_quote text, ?_, ?_, ?_⟩
  · intro c isLayout
    exact not_mem_escapeAll isLayout text.toList
  · exact closesNowhere_escapeAll text.toList
  · exact decode?_escapeAll text.toList

/-- Of three dollar signs before a brace only the last one is doubled. -/
example : decode? "$$$$\x7b%%\x7b".toList = some "$$$\x7b%\x7b".toList := by decide

end CloudPlan.Terraform.Hcl
