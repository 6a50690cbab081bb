import CloudPlan.Code.Generation
import CloudPlan.Proofs.Sequence
import CloudPlan.Proofs.Text.Digits

/-!
# What identifiers look like

Whatever a name holds, its identifier begins with a small letter and goes on with small
letters, digits and underscores.  A number behind an identifier changes nothing about that,
and different identifiers have different capitals.
-/

namespace CloudPlan.Code.Identifier

/-- A text is an identifier: a small letter, and then small letters, digits and underscores. -/
def IsIdentifier (text : String) : Prop :=
  ∃ first more, text.toList = first :: more ∧ first.isLower = true ∧
    ∀ c ∈ more, c.isLower = true ∨ c.isDigit = true ∨ c = '_'

theorem isWordChar_iff (c : Char) :
    isWordChar c = true ↔ c.isLower = true ∨ c.isDigit = true ∨ c = '_' := by
  simp [isWordChar, or_assoc]

theorem IsIdentifier.isWordChar
    {text : String}
    (isIdentifier : IsIdentifier text) :
    ∀ c ∈ text.toList, isWordChar c = true := by
  obtain ⟨first, more, isText, isLetter, words⟩ := isIdentifier
  rw [isText, List.forall_mem_cons]
  refine ⟨(isWordChar_iff first).2 (Or.inl isLetter), ?_⟩
  exact fun c member => (isWordChar_iff c).2 (words c member)

/-- Nothing but characters of identifiers is left when the others are collapsed. -/
theorem isWordChar_of_mem_collapse
    {inGap : Bool}
    {chars : List Char}
    {c : Char}
    (member : c ∈ collapse inGap chars) :
    isWordChar c = true := by
  induction chars generalizing inGap with
  | nil => contradiction
  | cons first rest inductionHypothesis =>
      unfold collapse at member
      split at member
      next isWord =>
        rcases List.mem_cons.1 member with rfl | later
        · exact isWord
        · exact inductionHypothesis later
      next =>
        split at member
        next => exact inductionHypothesis member
        next =>
          rcases List.mem_cons.1 member with rfl | later
          · decide
          · exact inductionHypothesis later

theorem strip_eq (chars : List Char) :
    strip chars = (chars.dropWhile (· == '_')).rdropWhile (· == '_') := rfl

theorem strip_sublist (chars : List Char) : (strip chars).Sublist chars := by
  rw [strip_eq]
  exact (List.rdropWhile_prefix _ _).sublist.trans (List.dropWhile_sublist _)

/-- Stripped characters of identifiers make an identifier. -/
theorem isIdentifier_complete
    {chars : List Char}
    (words : ∀ c ∈ chars, isWordChar c = true)
    (noUnderscore : ∀ rest, chars ≠ '_' :: rest) :
    IsIdentifier (complete chars) := by
  unfold complete
  split
  next => exact ⟨'r', "esource".toList, rfl, by decide, by simp⟩
  next first rest =>
    have all : ∀ c ∈ first :: rest, c.isLower = true ∨ c.isDigit = true ∨ c = '_' :=
      fun c member => (isWordChar_iff c).1 (words c member)
    split
    next =>
      refine ⟨'r', '_' :: first :: rest, by simp, by decide, ?_⟩
      exact List.forall_mem_cons.2 ⟨Or.inr (Or.inr rfl), all⟩
    next notDigit =>
      obtain ⟨ofFirst, ofRest⟩ := List.forall_mem_cons.1 all
      rcases ofFirst with isLetter | isDigit | rfl
      · exact ⟨first, rest, String.toList_ofList, isLetter, ofRest⟩
      · exact absurd isDigit notDigit
      · exact absurd rfl (noUnderscore rest)

/-- Any characters make an identifier when they are collapsed and stripped. -/
theorem isIdentifier_of_collapsed (chars : List Char) :
    IsIdentifier (complete (strip (collapse false chars))) := by
  apply isIdentifier_complete
  · intro c member
    exact isWordChar_of_mem_collapse ((strip_sublist _).mem member)
  · intro rest isStripped
    rw [strip_eq] at isStripped
    have notUnderscore := not_of_trimmed isStripped
    simp at notUnderscore

/-- What a name is turned into is an identifier. -/
theorem isIdentifier_sanitize (name : String) : IsIdentifier (sanitize name) :=
  isIdentifier_of_collapsed _

/-- A number behind an identifier makes another one. -/
theorem IsIdentifier.numbered
    {base : String}
    (isIdentifier : IsIdentifier base)
    (attempt : Nat) :
    IsIdentifier (Code.numbered base attempt) := by
  unfold Code.numbered
  split
  next => exact isIdentifier
  next =>
    obtain ⟨first, more, isBase, isLetter, words⟩ := isIdentifier
    refine ⟨first, more ++ '_' :: (toString (attempt + 1)).toList, ?_, isLetter, ?_⟩
    · simp [isBase]
    · intro c member
      rcases List.mem_append.1 member with inBase | inNumber
      · exact words c inBase
      · rcases List.mem_cons.1 inNumber with rfl | inDigits
        · exact Or.inr (Or.inr rfl)
        · rw [Text.toList_toString] at inDigits
          exact Or.inr (Or.inl (Nat.isDigit_of_mem_toDigits (by decide) (by decide) inDigits))

/-! ## Capitals -/

theorem toNat_lt_of_isWordChar
    {c : Char}
    (isWord : isWordChar c = true) :
    c.toNat < 128 := by
  rcases (isWordChar_iff c).1 isWord with isLetter | isDigit | rfl
  · have inside : (decide (97 ≤ c.val) && decide (c.val ≤ 122)) = true := isLetter
    have bounds : 97 ≤ c.toNat ∧ c.toNat ≤ 122 := by
      simpa [UInt32.le_iff_toNat_le] using inside
    omega
  · have bounds : 48 ≤ c.toNat ∧ c.toNat ≤ 57 := by
      simpa [Char.isDigit, UInt32.le_iff_toNat_le] using isDigit
    omega
  · decide

/-- What holds of the characters of identifiers among the first 128 holds of all of them. -/
theorem property_of_isWordChar
    (property : Char → Prop)
    (small : ∀ code < 128, isWordChar (Char.ofNat code) = true → property (Char.ofNat code))
    {c : Char}
    (isWord : isWordChar c = true) :
    property c := by
  have found := small c.toNat (toNat_lt_of_isWordChar isWord)
  rw [Char.ofNat_toNat] at found
  exact found isWord

/-- A character of an identifier has one capital, and is got back from it. -/
theorem toLower_upperChar
    {c : Char}
    (isWord : isWordChar c = true) :
    (Text.LetterCase.upperChar c).map Char.toLower = [c] := by
  have gotBack : c.toUpper.toLower = c :=
    property_of_isWordChar (fun d => d.toUpper.toLower = d) (by decide) isWord
  rw [Text.LetterCase.upperChar, if_pos (toNat_lt_of_isWordChar isWord), List.map_singleton,
    gotBack]

/-- An identifier is got back from its capitals. -/
theorem IsIdentifier.lowerAscii_upper
    {text : String}
    (isIdentifier : IsIdentifier text) :
    Text.lowerAscii (Text.upper text) = text := by
  rw [Text.lowerAscii, Text.upper, String.toList_ofList, List.map_flatMap,
    List.flatMap_congr fun c member => toLower_upperChar (isIdentifier.isWordChar c member),
    List.flatMap_singleton', String.ofList_toList]

end CloudPlan.Code.Identifier
