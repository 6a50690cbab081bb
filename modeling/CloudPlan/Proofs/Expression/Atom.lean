import CloudPlan.Proofs.Expression.Reading
import CloudPlan.Proofs.Expression.Word

/-!
# Atoms

Literals and field paths are read exactly as they are written, and only they start with a
letter, a digit, an underscore or a quote.
-/

namespace CloudPlan.Expression.Reader

variable {text rest : List Char} {tree : Tree}

/-! ## What is read is written -/

theorem writtenAs_of_keyword?
    {name : List Char}
    {value : Literal}
    (found : keyword? name = some value) :
    value.WrittenAs name := by
  unfold keyword? at found
  split_ifs at found with isTrue isFalse isNull <;> obtain rfl := Option.some.inj found
  · exact isTrue ▸ .true
  · exact isFalse ▸ .false
  · exact isNull ▸ .null

theorem atomWrittenAs_of_atom
    (read : success (atom text) = some (tree, rest)) :
    ∃ written, AtomWrittenAs tree written ∧ text = written ++ rest := by
  rw [success_atom] at read
  split at read
  next digits after number =>
    obtain ⟨rfl, rfl⟩ := Prod.mk.inj (Option.some.inj read)
    obtain ⟨isNumber, text_eq⟩ := isNumber_of_digits? number
    exact ⟨digits, .literal (.number isNumber), text_eq⟩
  next name noNumber found =>
    obtain ⟨isIdentifier, text_eq⟩ := isIdentifier_of_identifier? found
    split at read
    next value isKeyword =>
      obtain ⟨rfl, rfl⟩ := Prod.mk.inj (Option.some.inj read)
      exact ⟨name.value, .literal (writtenAs_of_keyword? isKeyword), text_eq⟩
    next noKeyword =>
      obtain ⟨⟨names, after⟩, path, joined⟩ := Option.map_eq_some_iff.1 read
      obtain ⟨rfl, rfl⟩ := Prod.mk.inj joined
      obtain ⟨written, pathWritten, after_eq⟩ :=
        pathWrittenAs_of_segments (toOption_eq_some_iff.1 path)
      refine ⟨name.value ++ written,
        .field isIdentifier ((keyword?_eq_none_iff _).1 noKeyword) pathWritten, ?_⟩
      rw [List.append_assoc, ← after_eq]
      exact text_eq
  next =>
    split at read
    next => contradiction
    next quote inside _ _ =>
      split at read
      next isQuote =>
        obtain ⟨⟨content, after⟩, found, joined⟩ := Option.map_eq_some_iff.1 read
        obtain ⟨rfl, rfl⟩ := Prod.mk.inj joined
        obtain ⟨between, written, rfl⟩ :=
          contentWrittenAs_of_quotedContent (toOption_eq_some_iff.1 found)
        refine ⟨_, .literal (.text isQuote written), ?_⟩
        simp only [List.append_assoc, List.cons_append, List.nil_append]
      next => contradiction

/-! ## Beginnings of atoms -/

/-- The first character of an atom: a letter, a digit, an underscore or a quote. -/
def startsAtom (c : Char) : Bool :=
  continuesIdentifier c || c == '"' || c == '\''

theorem startsAtom_of_digit {c : Char} (digit : c.isDigit = true) : startsAtom c = true := by
  simp [startsAtom, continuesIdentifier, Char.isAlphanum, digit]

theorem exists_digit_cons
    {digits : List Char}
    (isDigits : IsDigits digits) :
    ∃ c more, digits = c :: more ∧ c.isDigit = true := by
  obtain ⟨filled, allDigits⟩ := isDigits
  obtain ⟨c, more, rfl⟩ := List.exists_cons_of_ne_nil filled
  exact ⟨c, more, rfl, allDigits c List.mem_cons_self⟩

theorem isDigit_eq_false_of_isAlpha {c : Char} (letter : c.isAlpha = true) :
    c.isDigit = false := by
  rw [Bool.eq_false_iff]
  intro digit
  have letters : (decide ('A'.val ≤ c.val ∧ c.val ≤ 'Z'.val) ||
      'a'.val ≤ c.val && c.val ≤ 'z'.val) = true := letter
  have digits : ('0'.val ≤ c.val && c.val ≤ '9'.val) = true := digit
  simp only [Bool.or_eq_true, Bool.and_eq_true, decide_eq_true_eq, UInt32.le_iff_toNat_le]
    at letters digits
  have bounds : 'A'.val.toNat = 65 ∧ 'a'.val.toNat = 97 ∧ '9'.val.toNat = 57 := ⟨rfl, rfl, rfl⟩
  omega

theorem startsAtom_of_identifier
    {name : List Char}
    (isIdentifier : IsIdentifier name) :
    ∃ c more, name = c :: more ∧ startsAtom c = true ∧ c.isDigit = false := by
  cases isIdentifier with
  | @intro c more starts _ =>
      refine ⟨c, more, rfl, ?_⟩
      rcases starts with letter | rfl
      · refine ⟨?_, isDigit_eq_false_of_isAlpha letter⟩
        simp [startsAtom, continuesIdentifier, Char.isAlphanum, letter]
      · decide

theorem head_literal
    {value : Literal}
    (written : value.WrittenAs text) :
    ∃ c more, text = c :: more ∧ startsAtom c = true := by
  cases written with
  | null => exact ⟨_, _, rfl, by decide⟩
  | true => exact ⟨_, _, rfl, by decide⟩
  | false => exact ⟨_, _, rfl, by decide⟩
  | number isNumber =>
      rcases isNumber with whole | ⟨whole, fraction, wholeDigits, _, rfl⟩
      · obtain ⟨c, more, rfl, digit⟩ := exists_digit_cons whole
        exact ⟨c, more, rfl, startsAtom_of_digit digit⟩
      · obtain ⟨c, more, rfl, digit⟩ := exists_digit_cons wholeDigits
        exact ⟨c, _, rfl, startsAtom_of_digit digit⟩
  | text isQuote _ => exact ⟨_, _, rfl, by rcases isQuote with rfl | rfl <;> decide⟩

theorem head_atom
    (atomWritten : AtomWrittenAs tree text) :
    ∃ c more, text = c :: more ∧ startsAtom c = true := by
  cases atomWritten with
  | literal written => exact head_literal written
  | field isIdentifier _ _ =>
      obtain ⟨c, more, rfl, starts, _⟩ := startsAtom_of_identifier isIdentifier
      exact ⟨c, _, rfl, starts⟩

/-! ## Written atoms are read -/

theorem success_atom_of_name
    {name : List Char}
    (isIdentifier : IsIdentifier name)
    (ends : EndsName rest) :
    success (atom (name ++ rest)) =
      match keyword? name with
      | some value => some (.literal value, rest)
      | none =>
        (segments rest).toOption.map fun path => (.field name path.1, path.2) := by
  have noNumber : digits? (name ++ rest) = none := by
    obtain ⟨c, more, rfl, _, noDigit⟩ := startsAtom_of_identifier isIdentifier
    exact digits?_eq_none noDigit (more ++ rest)
  obtain ⟨shorter, found⟩ := identifier?_append isIdentifier ends
  cases kind : keyword? name <;> simp only [success_atom, noNumber, found, kind]

theorem success_atom_append
    (atomWritten : AtomWrittenAs tree text)
    (stops : Stops rest) :
    success (atom (text ++ rest)) = some (tree, rest) := by
  cases atomWritten with
  | literal written =>
      cases written with
      | null => exact success_atom_of_name (.intro (.inl rfl) (by simp)) stops.endsName
      | true => exact success_atom_of_name (.intro (.inl rfl) (by simp)) stops.endsName
      | false => exact success_atom_of_name (.intro (.inl rfl) (by simp)) stops.endsName
      | number isNumber => rw [success_atom, digits?_append isNumber stops]
      | @text quote content inside isQuote written =>
          have noNumber : ∀ more, digits? (quote :: more) = none :=
            digits?_eq_none (by rcases isQuote with rfl | rfl <;> decide)
          have noName : ∀ more, identifier? (quote :: more) = none :=
            identifier?_eq_none (by rcases isQuote with rfl | rfl <;> decide)
          rw [success_atom, List.cons_append, noNumber, noName]
          simp only [if_pos isQuote, List.append_assoc, List.cons_append, List.nil_append,
            quotedContent_append isQuote written]
          rfl
  | @field first written names isIdentifier noKeyword path =>
      rw [List.append_assoc, success_atom_of_name isIdentifier (endsName_path path stops),
        (keyword?_eq_none_iff first).2 noKeyword, segments_append path stops]
      rfl

theorem success_operand_of_atom
    {before : List Char}
    (blanks : IsBlanks before)
    {c : Char}
    (starts : startsAtom c = true)
    (more : List Char) :
    success (operand (before ++ c :: more)) = success (atom (c :: more)) := by
  have filled : isBlank c = false := by
    rw [Bool.eq_false_iff, ne_eq, isBlank_iff]
    intro blank
    have noBlank : ∀ d ∈ [' ', '\t', '\r', '\n'], startsAtom d = false := by
      simp [startsAtom, continuesIdentifier]
    simp [noBlank c blank] at starts
  rw [success_operand, skip_append blanks, skip_cons filled]
  split
  next rest same =>
    obtain rfl := (List.cons.inj same).1
    exact absurd starts (by decide)
  next rest same =>
    obtain rfl := (List.cons.inj same).1
    exact absurd starts (by decide)
  next rest same =>
    obtain rfl := (List.cons.inj same).1
    exact absurd starts (by decide)
  next => rfl

end CloudPlan.Expression.Reader
