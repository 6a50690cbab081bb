import CloudPlan.Json.Printer
import CloudPlan.Json.Reader
import CloudPlan.Proofs.Json.TextLists
import Mathlib.Data.List.Forall2
import Mathlib.Data.List.Induction
import Mathlib.Tactic.SplitIfs

/-!
# Printed texts

A text that stands between quotes is read back character by character.  Lists and objects are read
back when their contents are, so a printed list of texts is read as the tree that lists them.  No
text that a document lists is as long as the document.
-/

namespace CloudPlan.Json

namespace Reader

open CloudPlan.Text

/-! ## Characters -/

/-- The codes that no letter stands for are printed with two hexadecimal digits. -/
theorem naturalIn?_hexDigits :
    ∀ code < 32, naturalIn? 16 ['0', '0', Nat.digitChar (code / 16), Nat.digitChar (code % 16)] =
      some code := by
  decide

theorem codes_of_letter
    {letter : Char}
    {code : Nat}
    (stands : escape? letter = some code)
    (more : List Char) :
    codes ('\\' :: letter :: more) =
      (codes more).map fun found => (code :: found.1, found.2) := by
  have noHex : letter ≠ 'u' := by
    rintro rfl
    contradiction
  rw [codes]
  · rw [stands]
    cases codes more <;> rfl
  · rintro _ _ _ _ _ rfl
    exact absurd rfl noHex

theorem codes_of_plain
    {c : Char}
    (noQuote : c ≠ '"')
    (noEscape : c ≠ '\\')
    (printable : 0x20 ≤ c.toNat)
    (more : List Char) :
    codes (c :: more) = (codes more).map fun found => (c.toNat :: found.1, found.2) := by
  rw [codes]
  · rw [guard, if_pos printable]
    cases codes more <;> rfl
  · exact noQuote
  · rintro _ _ _ _ _ rfl
    exact absurd rfl noEscape
  · rintro _ _ rfl
    exact absurd rfl noEscape

/-- One character, however it is printed, is read as its code. -/
theorem codes_escape
    (c : Char)
    (more : List Char) :
    codes (escape c ++ more) = (codes more).map fun found => (c.toNat :: found.1, found.2) := by
  unfold escape
  split
  · exact codes_of_letter rfl more
  · exact codes_of_letter rfl more
  · exact codes_of_letter rfl more
  · exact codes_of_letter rfl more
  · exact codes_of_letter rfl more
  next noQuote noEscape _ _ _ =>
    split_ifs with isBackspace isFormFeed isControl
    · rw [isBackspace]
      exact codes_of_letter rfl more
    · rw [isFormFeed]
      exact codes_of_letter rfl more
    · simp only [List.cons_append, List.nil_append, codes, naturalIn?_hexDigits _ isControl]
      cases codes more <;> rfl
    · exact codes_of_plain noQuote noEscape (Nat.le_of_not_lt isControl) more

theorem codes_flatMap_escape
    (content rest : List Char) :
    codes (content.flatMap escape ++ '"' :: rest) = some (content.map Char.toNat, rest) := by
  induction content with
  | nil => rw [List.flatMap_nil, List.nil_append, codes, List.map_nil]
  | cons c content inductionHypothesis =>
      rw [List.flatMap_cons, List.append_assoc, codes_escape, inductionHypothesis]
      rfl

/-- No character is half of one. -/
theorem isHalf_toNat (c : Char) : (isHigh c.toNat || isLow c.toNat) = false := by
  have valid : c.toNat < 0xD800 ∨ 0xDFFF < c.toNat ∧ c.toNat < 0x110000 := c.valid
  simp only [isHigh, isLow, Bool.or_eq_false_iff, Bool.and_eq_false_iff, decide_eq_false_iff_not]
  omega

theorem characters?_map_toNat (content : List Char) :
    characters? (content.map Char.toNat) = some content := by
  induction content with
  | nil => rfl
  | cons c content inductionHypothesis =>
      have whole := isHalf_toNat c
      cases content with
      | nil => simp [characters?, whole, Char.ofNat_toNat]
      | cons next others =>
          obtain ⟨noHigh, noLow⟩ := Bool.or_eq_false_iff.1 whole
          rw [List.map_cons] at inductionHypothesis
          simp [characters?, noHigh, noLow, inductionHypothesis, Char.ofNat_toNat]

/-- Behind an opening quote the text is read up to the closing one. -/
theorem text_flatMap_escape
    (content : String)
    (rest : List Char) :
    text (content.toList.flatMap escape ++ '"' :: rest) = some (some content, rest) := by
  simp [text, codes_flatMap_escape, characters?_map_toNat]

/-! ## Documents -/

/-- A value is printed as what is read as a tree, whatever follows it. -/
structure ReadsBack (value : Value) (found : Tree) : Prop where
  /-- It starts with no blank, and not as if a list ended. -/
  starts : ∃ first more,
    value.compactChars = first :: more ∧ isBlank first = false ∧ first ≠ ']'
  /-- Its characters are enough steps. -/
  reads : ∀ fuel rest, value.compactChars.length < fuel →
    tree fuel (value.compactChars ++ rest) = some (found, rest)

theorem readsBack_text (content : String) : ReadsBack (.text content) (.text (some content)) := by
  constructor
  case starts => exact ⟨'"', _, rfl, by decide, by decide⟩
  case reads =>
    intro fuel rest enough
    obtain ⟨fuel, rfl⟩ := Nat.exists_eq_succ_of_ne_zero (Nat.ne_zero_of_lt enough)
    have front : skip ((Value.text content).compactChars ++ rest) =
        '"' :: (content.toList.flatMap escape ++ '"' :: rest) := by
      rw [Value.compactChars, quote, List.cons_append, List.cons_append, List.append_assoc]
      rfl
    rw [tree, front]
    simp [text_flatMap_escape]

theorem items_compactItems
    {values : List Value}
    {trees : List Tree}
    (readBack : List.Forall₂ ReadsBack values trees)
    (filled : values ≠ [])
    {fuel : Nat}
    (enough : (Value.compactItems values).length + 1 < fuel)
    (rest : List Char) :
    items fuel (Value.compactItems values ++ ']' :: rest) = some (trees, rest) := by
  induction readBack generalizing fuel with
  | nil => exact absurd rfl filled
  | @cons value found others trees first readBack inductionHypothesis =>
      obtain ⟨fuel, rfl⟩ := Nat.exists_eq_succ_of_ne_zero (Nat.ne_zero_of_lt enough)
      cases readBack with
      | nil =>
          rw [Value.compactItems] at enough ⊢
          rw [items, first.reads _ _ (by omega)]
          rfl
      | @cons next nextFound others trees nextFirst readBack =>
          have shape : Value.compactItems (value :: next :: others) ++ ']' :: rest =
              value.compactChars ++ ',' :: (Value.compactItems (next :: others) ++
                ']' :: rest) := by
            rw [Value.compactItems, List.append_assoc, List.cons_append]
          rw [Value.compactItems, List.length_append, List.length_cons] at enough
          have others := inductionHypothesis (List.cons_ne_nil _ _)
            (by omega : (Value.compactItems (next :: others)).length + 1 < fuel)
          rw [shape, items, first.reads _ _ (by omega)]
          simp [skip, isBlank, others]

/-- Printed items start with no blank, and not as if the list ended. -/
theorem starts_compactItems
    {value : Value}
    {found : Tree}
    (readsBack : ReadsBack value found)
    (others : List Value)
    (rest : List Char) :
    ∃ first more, Value.compactItems (value :: others) ++ rest = first :: more ∧
      isBlank first = false ∧ first ≠ ']' := by
  obtain ⟨first, more, starts, noBlank, noEnd⟩ := readsBack.starts
  cases others with
  | nil => exact ⟨first, more ++ rest, by simp [Value.compactItems, starts], noBlank, noEnd⟩
  | cons next others =>
      exact ⟨first, _, by rw [Value.compactItems, starts]; rfl, noBlank, noEnd⟩

/-- Behind a bracket items are read, unless the list ends at once. -/
theorem tree_of_items
    {chars inside : List Char}
    (opens : skip chars = '[' :: inside)
    (filled : ∀ after, skip inside ≠ ']' :: after)
    (fuel : Nat) :
    tree (fuel + 1) chars =
      (items fuel (skip inside)).map fun found => (.list found.1, found.2) := by
  simp only [tree, opens]

theorem readsBack_list
    {values : List Value}
    {trees : List Tree}
    (readBack : List.Forall₂ ReadsBack values trees) :
    ReadsBack (.list values) (.list trees) := by
  constructor
  case starts => exact ⟨'[', _, rfl, by decide, by decide⟩
  case reads =>
    intro fuel rest enough
    obtain ⟨fuel, rfl⟩ := Nat.exists_eq_succ_of_ne_zero (Nat.ne_zero_of_lt enough)
    have opens : skip ((Value.list values).compactChars ++ rest) =
        '[' :: (Value.compactItems values ++ ']' :: rest) := by
      rw [Value.compactChars, List.cons_append, List.cons_append, List.append_assoc]
      rfl
    cases readBack with
    | nil =>
      rw [tree, opens]
      rfl
    | @cons value found others trees firstBack readBack =>
      obtain ⟨first, more, starts, noBlank, noEnd⟩ :=
        starts_compactItems firstBack others (']' :: rest)
      have skipped : skip (Value.compactItems (value :: others) ++ ']' :: rest) =
          first :: more := by
        rw [starts]
        exact List.dropWhile_cons_of_neg (by simp [noBlank])
      have inside : (Value.compactItems (value :: others)).length + 1 < fuel := by
        rw [Value.compactChars, List.length_append, List.length_cons, List.length_singleton]
          at enough
        omega
      have read := items_compactItems (.cons firstBack readBack) (List.cons_ne_nil _ _) inside rest
      rw [starts] at read
      rw [tree_of_items opens (by simp [skipped, noEnd]), skipped, read]
      rfl

/-- A member is printed as what is read as a member of its name. -/
def MemberReadsBack (member : String × Value) (found : Option String × Tree) : Prop :=
  found.1 = some member.1 ∧ ReadsBack member.2 found.2

/-- Behind the quote that opens its name a member is read, and then the others. -/
theorem members_of_name
    {chars valued : List Char}
    {name : String}
    (opens : skip chars = '"' :: (name.toList.flatMap escape ++ '"' :: ':' :: valued))
    (fuel : Nat) :
    members (fuel + 1) chars = (do
      let (value, rest) ← tree fuel valued
      match skip rest with
      | '}' :: after => return ([(some name, value)], after)
      | ',' :: more =>
        let (others, after) ← members fuel more
        return ((some name, value) :: others, after)
      | _ => none) := by
  simp only [members, opens, text_flatMap_escape]
  rfl

theorem members_compactMembers
    {values : List (String × Value)}
    {trees : List (Option String × Tree)}
    (readBack : List.Forall₂ MemberReadsBack values trees)
    (filled : values ≠ [])
    {fuel : Nat}
    (enough : (Value.compactMembers values).length + 1 < fuel)
    (rest : List Char) :
    members fuel (Value.compactMembers values ++ '}' :: rest) = some (trees, rest) := by
  induction readBack generalizing fuel with
  | nil => exact absurd rfl filled
  | @cons member found others trees first readBack inductionHypothesis =>
      obtain ⟨fuel, rfl⟩ := Nat.exists_eq_succ_of_ne_zero (Nat.ne_zero_of_lt enough)
      obtain ⟨name, value⟩ := member
      obtain ⟨_, found⟩ := found
      obtain ⟨rfl, first : ReadsBack value found⟩ := first
      cases readBack with
      | nil =>
          have opens : skip (Value.compactMembers [(name, value)] ++ '}' :: rest) =
              '"' :: (name.toList.flatMap escape ++ '"' :: ':' ::
                (value.compactChars ++ '}' :: rest)) := by
            rw [Value.compactMembers, quote]
            simp [skip, isBlank]
          rw [Value.compactMembers, List.length_append, List.length_cons] at enough
          rw [members_of_name opens, first.reads _ _ (by omega)]
          rfl
      | @cons next nextFound others trees nextFirst readBack =>
          have opens : skip (Value.compactMembers ((name, value) :: next :: others) ++
              '}' :: rest) =
              '"' :: (name.toList.flatMap escape ++ '"' :: ':' :: (value.compactChars ++
                ',' :: (Value.compactMembers (next :: others) ++ '}' :: rest))) := by
            rw [Value.compactMembers, quote]
            simp [skip, isBlank]
          rw [Value.compactMembers] at enough
          simp only [List.length_append, List.length_cons] at enough
          have others := inductionHypothesis (List.cons_ne_nil _ _)
            (by omega : (Value.compactMembers (next :: others)).length + 1 < fuel)
          rw [members_of_name opens, first.reads _ _ (by omega)]
          simp [skip, isBlank, others]

/-- Behind a brace members are read, unless the object ends at once. -/
theorem tree_of_members
    {chars inside : List Char}
    (opens : skip chars = '{' :: inside)
    (filled : ∀ after, skip inside ≠ '}' :: after)
    (fuel : Nat) :
    tree (fuel + 1) chars =
      (members fuel (skip inside)).map fun found => (.object found.1, found.2) := by
  simp only [tree, opens]

theorem readsBack_object
    {values : List (String × Value)}
    {trees : List (Option String × Tree)}
    (readBack : List.Forall₂ MemberReadsBack values trees) :
    ReadsBack (.object values) (.object trees) := by
  constructor
  case starts => exact ⟨'{', _, rfl, by decide, by decide⟩
  case reads =>
    intro fuel rest enough
    obtain ⟨fuel, rfl⟩ := Nat.exists_eq_succ_of_ne_zero (Nat.ne_zero_of_lt enough)
    have opens : skip ((Value.object values).compactChars ++ rest) =
        '{' :: (Value.compactMembers values ++ '}' :: rest) := by
      rw [Value.compactChars, List.cons_append, List.cons_append, List.append_assoc]
      rfl
    cases readBack with
    | nil =>
      rw [tree, opens]
      rfl
    | @cons member found others trees firstBack readBack =>
      obtain ⟨more, starts⟩ : ∃ more,
          Value.compactMembers (member :: others) ++ '}' :: rest = '"' :: more := by
        cases others <;> exact ⟨_, rfl⟩
      have skipped : skip (Value.compactMembers (member :: others) ++ '}' :: rest) =
          '"' :: more := by
        rw [starts]
        rfl
      have inside : (Value.compactMembers (member :: others)).length + 1 < fuel := by
        rw [Value.compactChars, List.length_append, List.length_cons, List.length_singleton]
          at enough
        omega
      have read :=
        members_compactMembers (.cons firstBack readBack) (List.cons_ne_nil _ _) inside rest
      rw [starts] at read
      rw [tree_of_members opens (by simp [skipped]), skipped, read]
      rfl

/-- A document that is printed is read back. -/
theorem ReadsBack.document?_compactChars
    {value : Value}
    {found : Tree}
    (readsBack : ReadsBack value found) :
    document? value.compactChars = some found := by
  have read := readsBack.reads _ [] (Nat.lt_succ_self _)
  rw [List.append_nil] at read
  rw [document?, read]
  rfl

/-- A printed list of texts is read as the list of the texts. -/
theorem readsBack_ofTexts (names : List String) :
    ReadsBack (Value.ofTexts names) (treeOfTexts names) := by
  apply readsBack_list
  rw [List.forall₂_map_left_iff, List.forall₂_map_right_iff, List.forall₂_same]
  exact fun name _ => readsBack_text name

/-! ## Sizes -/

theorem length_skip_le (chars : List Char) : (skip chars).length ≤ chars.length :=
  (List.dropWhile_sublist _).length_le

/-- One code more takes at least one character more. -/
theorem length_code_cons
    {inner : Option (List Nat × List Char)}
    {size code : Nat}
    (shorter : ∀ {found rest}, inner = some (found, rest) → found.length + rest.length < size)
    {found : List Nat}
    {rest : List Char}
    (read : (inner.bind fun (more, after) => some (code :: more, after)) = some (found, rest)) :
    found.length + rest.length < size + 1 := by
  obtain ⟨⟨more, after⟩, isInner, joined⟩ := Option.bind_eq_some_iff.1 read
  obtain ⟨rfl, rfl⟩ := Prod.mk.inj (Option.some.inj joined)
  have bound := shorter isInner
  rw [List.length_cons]
  omega

theorem length_codes
    {chars rest : List Char}
    {found : List Nat}
    (read : codes chars = some (found, rest)) :
    found.length + rest.length < chars.length := by
  -- An escape takes several characters at once, so the induction is on the length.
  induction isLength : chars.length using Nat.strongRecOn generalizing chars found rest with
  | ind size inductionHypothesis =>
      subst isLength
      rw [codes.eq_def] at read
      split at read
      next => contradiction
      next after =>
        obtain ⟨rfl, rfl⟩ := Prod.mk.inj (Option.some.inj read)
        rw [List.length_nil, Nat.zero_add, List.length_cons]
        exact Nat.lt_succ_self _
      next a b c d behind =>
        obtain ⟨code, _, read⟩ := Option.bind_eq_some_iff.1 read
        simp only [List.length_cons] at inductionHypothesis ⊢
        have bound := length_code_cons (inductionHypothesis _ (by omega) · rfl) read
        omega
      next letter behind _ =>
        obtain ⟨code, _, read⟩ := Option.bind_eq_some_iff.1 read
        simp only [List.length_cons] at inductionHypothesis ⊢
        have bound := length_code_cons (inductionHypothesis _ (by omega) · rfl) read
        omega
      next c behind _ _ _ =>
        obtain ⟨_, _, read⟩ := Option.bind_eq_some_iff.1 read
        rw [List.length_cons] at inductionHypothesis ⊢
        exact length_code_cons (inductionHypothesis _ (Nat.lt_succ_self _) · rfl) read

theorem length_characters?
    {codes : List Nat}
    {content : List Char}
    (read : characters? codes = some content) :
    content.length ≤ codes.length := by
  induction codes using List.twoStepInduction generalizing content with
  | nil =>
      obtain rfl := Option.some.inj read
      exact Nat.le_refl _
  | singleton code =>
      rw [characters?] at read
      split at read
      next => contradiction
      next =>
        obtain rfl := Option.some.inj read
        exact Nat.le_refl _
  | cons_cons code next codes behindBoth behindFirst =>
      rw [characters?] at read
      split_ifs at read
      · obtain ⟨others, isOthers, rfl⟩ := Option.map_eq_some_iff.1 read
        exact Nat.succ_le_succ (Nat.le_succ_of_le (behindBoth isOthers))
      · obtain ⟨others, isOthers, rfl⟩ := Option.map_eq_some_iff.1 read
        exact Nat.succ_le_succ (behindFirst next isOthers)

theorem length_text
    {chars rest : List Char}
    {content : String}
    (read : text chars = some (some content, rest)) :
    content.toList.length + rest.length < chars.length := by
  obtain ⟨⟨found, after⟩, isCodes, decoded⟩ := Option.bind_eq_some_iff.1 read
  obtain ⟨isContent, rfl⟩ := Prod.mk.inj (Option.some.inj decoded)
  obtain ⟨characters, isCharacters, rfl⟩ := Option.map_eq_some_iff.1 isContent
  have shorter := length_codes isCodes
  have fewer := length_characters? isCharacters
  rw [String.toList_ofList]
  omega

theorem length_tree_text
    {fuel : Nat}
    {chars rest : List Char}
    {content : String}
    (read : tree fuel chars = some (.text (some content), rest)) :
    content.toList.length + rest.length < chars.length := by
  cases fuel with
  | zero => contradiction
  | succ fuel =>
      have skipped := length_skip_le chars
      rw [tree] at read
      split at read
      next => simp at read
      next => simp at read
      next => simp at read
      next inside opens =>
        obtain ⟨⟨found, after⟩, isText, joined⟩ := Option.map_eq_some_iff.1 read
        obtain ⟨same, rfl⟩ := Prod.mk.inj joined
        obtain rfl := Tree.text.inj same
        have shorter := length_text isText
        rw [opens, List.length_cons] at skipped
        omega
      next => split at read <;> simp at read
      next => split at read <;> simp at read
      next => simp at read

/-- The texts of a list are shorter than what the list is read from. -/
theorem length_items
    {names : List String}
    {fuel : Nat}
    {chars rest : List Char}
    (read : items fuel chars = some (names.map fun name => .text (some name), rest)) :
    ∀ name ∈ names, name.toList.length < chars.length := by
  induction names generalizing fuel chars rest with
  | nil => exact List.forall_mem_nil _
  | cons name others inductionHypothesis =>
      cases fuel with
      | zero => contradiction
      | succ fuel =>
          rw [items] at read
          obtain ⟨⟨item, behind⟩, isItem, read⟩ := Option.bind_eq_some_iff.1 read
          have skipped := length_skip_le behind
          dsimp only at read
          split at read
          next after closes =>
            obtain ⟨same, _⟩ := Prod.mk.inj (Option.some.inj read)
            obtain ⟨rfl, nothing⟩ := List.cons.inj same
            obtain rfl := List.map_eq_nil_iff.1 nothing.symm
            have shorter := length_tree_text isItem
            rw [List.forall_mem_singleton]
            omega
          next more goesOn =>
            obtain ⟨⟨found, after⟩, isOthers, joined⟩ := Option.bind_eq_some_iff.1 read
            obtain ⟨same, rfl⟩ := Prod.mk.inj (Option.some.inj joined)
            obtain ⟨rfl, rfl⟩ := List.cons.inj same
            have shorter := length_tree_text isItem
            rw [goesOn, List.length_cons] at skipped
            refine List.forall_mem_cons.2 ⟨by omega, fun other member => ?_⟩
            have fits := inductionHypothesis isOthers other member
            omega
          next => contradiction

/-- No text that a document lists is as long as the document. -/
theorem length_document?
    {names : List String}
    {chars : List Char}
    (read : document? chars = some (treeOfTexts names)) :
    ∀ name ∈ names, name.toList.length < chars.length := by
  obtain ⟨⟨found, rest⟩, isTree, read⟩ := Option.bind_eq_some_iff.1 read
  obtain ⟨_, _, read⟩ := Option.bind_eq_some_iff.1 read
  obtain rfl := Option.some.inj read
  have skipped := length_skip_le chars
  rw [tree, treeOfTexts] at isTree
  split at isTree
  next => simp at isTree
  next => simp at isTree
  next => simp at isTree
  next => simp at isTree
  next inside opens =>
    have skippedInside := length_skip_le inside
    rw [opens, List.length_cons] at skipped
    split at isTree
    next =>
      obtain ⟨same, _⟩ := Prod.mk.inj (Option.some.inj isTree)
      obtain rfl := List.map_eq_nil_iff.1 (Tree.list.inj same).symm
      exact List.forall_mem_nil _
    next =>
      obtain ⟨⟨found, after⟩, isItems, joined⟩ := Option.map_eq_some_iff.1 isTree
      obtain ⟨same, rfl⟩ := Prod.mk.inj joined
      obtain rfl := Tree.list.inj same
      intro name member
      have fits := length_items isItems name member
      omega
  next => split at isTree <;> simp at isTree
  next => simp at isTree

end Reader

/-- A text that is printed is read back as the document. -/
theorem Reader.ReadsBack.ofText?_compact
    {value : Value}
    {found : Tree}
    (readsBack : ReadsBack value found) :
    Tree.ofText? value.compact = some found := by
  rw [Tree.ofText?, Value.compact, String.toList_ofList, readsBack.document?_compactChars]

/-- A printed list of texts has the texts as its value. -/
theorem Value.parse?_compact_ofTexts (names : List String) :
    Value.parse? (Value.ofTexts names).compact = some (.ofTexts names) := by
  rw [Value.parse?, (Reader.readsBack_ofTexts names).ofText?_compact]
  exact value?_eq_ofTexts_iff.2 rfl

/-- Every text of a list is shorter than a text that spells the list. -/
theorem Value.length_of_parse?_eq_ofTexts
    {names : List String}
    {source : String}
    (spells : Value.parse? source = some (.ofTexts names)) :
    ∀ name ∈ names, name.toList.length < source.toList.length := by
  obtain ⟨tree, read, isValue⟩ := Option.bind_eq_some_iff.1 spells
  obtain rfl := value?_eq_ofTexts_iff.1 isValue
  exact Reader.length_document? read

end CloudPlan.Json
