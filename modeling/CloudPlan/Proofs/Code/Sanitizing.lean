import CloudPlan.Proofs.Code.Identifier

/-!
# Identifiers are settled

The identifier of a name does not end with an underscore either, and is its own identifier:
no step of the way from names to identifiers finds anything to do in it.  Of the lower case
of texts no more is needed than that it leaves small letters, digits and underscores alone.
-/

namespace CloudPlan.Code.Identifier

/-- A text is an identifier that does not end with an underscore. -/
structure IsSettled (text : String) : Prop where
  /-- The text is a small letter, and then small letters, digits and underscores. -/
  isIdentifier : IsIdentifier text
  /-- The last character is a small letter or a digit. -/
  ends : text.toList.getLast? ≠ some '_'

/-- A lower case leaves texts of small letters, digits and underscores as they are. -/
def KeepsWords (lower : String → String) : Prop :=
  ∀ text, (∀ c ∈ text.toList, isWordChar c = true) → lower text = text

/-- The identifier that a name gives with a lower case. -/
def sanitizeBy (lower : String → String) (name : String) : String :=
  complete (strip (collapse false (lower (Text.trim name)).toList))

theorem sanitize_eq_sanitizeBy : sanitize = sanitizeBy Text.lower := rfl

/-! ## Steps that find nothing to do -/

/-- The characters of identifiers are neither blank nor capitals. -/
theorem isBlank_and_toLower_of_isWordChar
    {c : Char}
    (isWord : isWordChar c = true) :
    Text.isBlank c = false ∧ c.toLower = c :=
  property_of_isWordChar (fun d => Text.isBlank d = false ∧ d.toLower = d) (by decide) isWord

theorem not_isDigit_of_isLower
    {c : Char}
    (isLetter : c.isLower = true) :
    ¬c.isDigit = true := by
  have isWord := (isWordChar_iff c).2 (Or.inl isLetter)
  exact property_of_isWordChar (fun d => d.isLower = true → ¬d.isDigit = true) (by decide)
    isWord isLetter

/-- Nothing is trimmed from characters of identifiers. -/
theorem trim_of_words
    {text : String}
    (words : ∀ c ∈ text.toList, isWordChar c = true) :
    Text.trim text = text := by
  have noBlank : ∀ c ∈ text.toList, ¬Text.isBlank c = true := fun c member => by
    simp [(isBlank_and_toLower_of_isWordChar (words c member)).1]
  have front : text.toList.dropWhile Text.isBlank = text.toList :=
    List.dropWhile_eq_self_iff.2 fun _ => noBlank _ (List.getElem_mem _)
  have back : text.toList.rdropWhile Text.isBlank = text.toList :=
    List.rdropWhile_eq_self_iff.2 fun nonempty => noBlank _ (List.getLast_mem nonempty)
  rw [Text.trim, Text.trimChars, front]
  change String.ofList (text.toList.rdropWhile Text.isBlank) = text
  rw [back, String.ofList_toList]

theorem lowerChars_of_words
    {chars : List Char}
    (words : ∀ c ∈ chars, isWordChar c = true)
    (before : List Char) :
    Text.LetterCase.lowerChars before chars = chars := by
  induction chars generalizing before with
  | nil => rfl
  | cons c rest inductionHypothesis =>
      obtain ⟨isWord, restWords⟩ := List.forall_mem_cons.1 words
      have isAscii := toNat_lt_of_isWordChar isWord
      have notSigma : c ≠ 'Σ' := by
        rintro rfl
        contradiction
      rw [Text.LetterCase.lowerChars, if_neg notSigma, Text.LetterCase.lowerChar, if_pos isAscii,
        (isBlank_and_toLower_of_isWordChar isWord).2, inductionHypothesis restWords,
        List.singleton_append]

/-- The full lower case leaves characters of identifiers alone. -/
theorem keepsWords_lower : KeepsWords Text.lower := by
  intro text words
  rw [Text.lower, lowerChars_of_words words, String.ofList_toList]

theorem collapse_of_words
    {chars : List Char}
    (words : ∀ c ∈ chars, isWordChar c = true)
    (inGap : Bool) :
    collapse inGap chars = chars := by
  induction chars generalizing inGap with
  | nil => rfl
  | cons c rest inductionHypothesis =>
      obtain ⟨isWord, restWords⟩ := List.forall_mem_cons.1 words
      rw [collapse, if_pos isWord, inductionHypothesis restWords]

/-- What is stripped does not end with an underscore. -/
theorem getLast?_strip_ne (chars : List Char) : (strip chars).getLast? ≠ some '_' := by
  rw [strip_eq]
  intro isLast
  obtain ⟨nonempty, isLast⟩ := List.mem_getLast?_eq_getLast isLast
  have notUnderscore := List.rdropWhile_last_not _ _ nonempty
  simp [← isLast] at notUnderscore

namespace IsSettled

variable {text : String}

theorem strip
    (settled : IsSettled text) :
    strip text.toList = text.toList := by
  obtain ⟨⟨first, more, isText, isLetter, _⟩, ends⟩ := settled
  have front : text.toList.dropWhile (· == '_') = text.toList := by
    have notUnderscore : first ≠ '_' := by
      rintro rfl
      contradiction
    rw [isText, List.dropWhile_cons_of_neg (by simpa using notUnderscore)]
  have back : text.toList.rdropWhile (· == '_') = text.toList :=
    List.rdropWhile_eq_self_iff.2 fun nonempty isUnderscore =>
      ends (by rw [List.getLast?_eq_some_getLast nonempty, eq_of_beq isUnderscore])
  rw [strip_eq, front, back]

theorem complete
    (settled : IsSettled text) :
    complete text.toList = text := by
  obtain ⟨first, more, isText, isLetter, _⟩ := settled.isIdentifier
  have notDigit : ¬first.isDigit = true := not_isDigit_of_isLower isLetter
  rw [← String.ofList_toList (s := text), isText, String.toList_ofList, Identifier.complete,
    if_neg notDigit]

/-- A settled identifier is its own identifier. -/
theorem sanitizeBy
    (settled : IsSettled text)
    {lower : String → String}
    (keeps : KeepsWords lower) :
    sanitizeBy lower text = text := by
  have words := settled.isIdentifier.isWordChar
  rw [Identifier.sanitizeBy, trim_of_words words, keeps text words, collapse_of_words words,
    settled.strip, settled.complete]

end IsSettled

/-! ## What names are turned into -/

/-- What is put in front of stripped characters leaves their end as it is. -/
theorem getLast?_complete_ne
    {chars : List Char}
    (ends : chars.getLast? ≠ some '_') :
    (complete chars).toList.getLast? ≠ some '_' := by
  unfold complete
  split
  next => decide
  next first rest =>
    split
    next => simpa [List.getLast?_cons] using ends
    next => simpa using ends

/-- Whatever the lower case of a name is, the identifier of the name is settled. -/
theorem isSettled_sanitizeBy
    (lower : String → String)
    (name : String) :
    IsSettled (sanitizeBy lower name) where
  isIdentifier := isIdentifier_of_collapsed _
  ends := getLast?_complete_ne (getLast?_strip_ne _)

/-- The identifier of any name is settled and its own identifier, and would be with any other
lower case that leaves small letters, digits and underscores alone. -/
theorem sanitize_settles (name : String) :
    (IsSettled (sanitize name) ∧ sanitize (sanitize name) = sanitize name) ∧
    ∀ lower, KeepsWords lower →
      IsSettled (sanitizeBy lower name) ∧
        sanitizeBy lower (sanitizeBy lower name) = sanitizeBy lower name := by
  have settles : ∀ lower, KeepsWords lower →
      IsSettled (sanitizeBy lower name) ∧
        sanitizeBy lower (sanitizeBy lower name) = sanitizeBy lower name := by
    intro lower keeps
    have settled := isSettled_sanitizeBy lower name
    exact ⟨settled, settled.sanitizeBy keeps⟩
  refine ⟨?_, settles⟩
  rw [sanitize_eq_sanitizeBy]
  exact settles Text.lower keepsWords_lower

/-- A lower case of ASCII letters alone settles an address as the full one does. -/
theorem sanitize_settles_address :
    KeepsWords Text.lowerAscii ∧ sanitizeBy Text.lowerAscii " 10.0.1.0/Ä-" = "r_10_0_1_0" ∧
    IsSettled "r_10_0_1_0" ∧ sanitizeBy Text.lowerAscii "r_10_0_1_0" = "r_10_0_1_0" ∧
    sanitize " 10.0.1.0/Ä-" = "r_10_0_1_0" := by
  have keeps : KeepsWords Text.lowerAscii := by
    intro text words
    have unchanged : text.toList.map Char.toLower = text.toList.map id :=
      List.map_congr_left fun c member => (isBlank_and_toLower_of_isWordChar (words c member)).2
    rw [Text.lowerAscii, unchanged, List.map_id, String.ofList_toList]
  have becomes : sanitizeBy Text.lowerAscii " 10.0.1.0/Ä-" = "r_10_0_1_0" := by decide
  have settles := (sanitize_settles " 10.0.1.0/Ä-").2 Text.lowerAscii keeps
  rw [becomes] at settles
  exact ⟨keeps, becomes, settles.1, settles.2, by decide⟩

end CloudPlan.Code.Identifier
