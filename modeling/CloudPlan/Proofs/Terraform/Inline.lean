import CloudPlan.Proofs.Code.Spelling
import CloudPlan.Proofs.Json.Numerals
import CloudPlan.Proofs.Terraform.Literal

/-!
# Values on one line

The first character of a literal value tells what kind of value it is, and from then on the
value can be read off what is left of the line, as far as that goes with numbers: what
follows the value has to end a number.
-/

namespace CloudPlan.Terraform.Hcl

open Code
open AttrValue (spelledItems spelledEntries)
open Json (isNumeric numeral_write)

variable {rest leftRest rightRest : List Char}

/-! ## Beginnings -/

/-- The kinds of values. -/
inductive Kind where
  | text
  | number
  | bool
  | list
  | map
  | reference

/-- The kind of literal value that begins with a character. -/
def kindOf : Char → Kind
  | '"' => .text
  | '[' => .list
  | '{' => .map
  | 't' => .bool
  | 'f' => .bool
  | _ => .number

/-- The kind of a value. -/
def kind : AttrValue → Kind
  | .text _ => .text
  | .number _ => .number
  | .bool _ => .bool
  | .list _ => .list
  | .map _ => .map
  | .reference _ => .reference

theorem kindOf_of_isNumeric
    {c : Char}
    (numeric : isNumeric c = true) :
    kindOf c = .number := by
  unfold kindOf
  split
  case h_6 => rfl
  all_goals exact absurd numeric (by decide)

/-- A literal value begins with a character for its kind. -/
theorem exists_first
    (value : AttrValue)
    (literal : value.IsLiteral) :
    ∃ first more, (inlineValue value).toList = first :: more ∧ kindOf first = kind value ∧
      first ≠ ']' := by
  cases value with
  | text value => exact ⟨_, _, toList_quote value, rfl, by decide⟩
  | number value =>
      have numeral := numeral_write value
      obtain ⟨first, more, isWritten⟩ := List.exists_cons_of_ne_nil numeral.nonempty
      have numeric : isNumeric first = true := numeral.numeric first (by simp [isWritten])
      refine ⟨first, more, by rw [inlineValue, isWritten], kindOf_of_isNumeric numeric, ?_⟩
      rintro rfl
      exact absurd numeric (by decide)
  | bool value => cases value <;> exact ⟨_, _, rfl, rfl, by decide⟩
  | list items =>
      rw [inlineValue, String.toList_append, String.toList_append]
      exact ⟨_, _, rfl, rfl, by decide⟩
  | map entries =>
      rw [inlineValue, inlineMap.eq_def]
      split
      · exact ⟨_, _, rfl, rfl, by decide⟩
      · simp only [String.toList_append, List.append_assoc]
        exact ⟨_, _, rfl, rfl, by decide⟩
  | reference target => exact absurd literal (by simp)

theorem kind_eq
    {left right : AttrValue}
    (leftLiteral : left.IsLiteral)
    (rightLiteral : right.IsLiteral)
    (same : (inlineValue left).toList ++ leftRest = (inlineValue right).toList ++ rightRest) :
    kind left = kind right := by
  obtain ⟨first, _, leftWritten, leftKind, -⟩ := exists_first left leftLiteral
  obtain ⟨other, _, rightWritten, rightKind, -⟩ := exists_first right rightLiteral
  rw [leftWritten, rightWritten] at same
  obtain ⟨rfl, -⟩ := List.cons_eq_cons.1 same
  exact leftKind.symm.trans rightKind

/-! ## Enumerations -/

/-- Texts that each stand behind a comma. -/
def following (texts : List String) : List Char :=
  texts.flatMap fun text => ',' :: ' ' :: text.toList

theorem following_cons (first : String) (others : List String) :
    following (first :: others) = ',' :: ' ' :: (first.toList ++ following others) := rfl

theorem following_eq_toList_intercalate (first : String) (others : List String) :
    following (first :: others) = ',' :: ' ' :: (", ".intercalate (first :: others)).toList := by
  rw [following_cons, String.toList_intercalate]
  induction others generalizing first with
  | nil => simp [following]
  | cons second others inductionHypothesis =>
      have later := inductionHypothesis second
      simp only [List.map_cons] at later ⊢
      rw [following_cons, later, List.intercalate_cons_cons, List.append_assoc]
      rfl

/-- What follows a value does not go on with a number. -/
def EndsNumeral (rest : List Char) : Prop :=
  ∀ next ∈ rest.head?, ¬isNumeric next = true

theorem endsNumeral_cons
    {next : Char}
    (other : isNumeric next = false) :
    EndsNumeral (next :: rest) := by
  rintro _ ⟨⟩
  simp [other]

theorem endsNumeral_following
    (texts : List String)
    (ends : EndsNumeral rest) :
    EndsNumeral (following texts ++ rest) := by
  cases texts with
  | nil => exact ends
  | cons first others => exact endsNumeral_cons (by decide)

theorem toList_list (items : List AttrValue) :
    (inlineValue (.list items)).toList =
      '[' :: ((", ".intercalate (inlineItems items)).toList ++ [']']) := by
  rw [inlineValue, String.toList_append, String.toList_append]
  rfl

/-- Lists that are written alike are enumerated alike. -/
theorem following_eq_of_list
    {left right : List AttrValue}
    (leftLiteral : ∀ item ∈ left, item.IsLiteral)
    (rightLiteral : ∀ item ∈ right, item.IsLiteral)
    (same : (inlineValue (.list left)).toList ++ leftRest =
      (inlineValue (.list right)).toList ++ rightRest) :
    following (inlineItems left) ++ ']' :: leftRest =
      following (inlineItems right) ++ ']' :: rightRest := by
  have opens (item : AttrValue) (items : List AttrValue) (literal : item.IsLiteral)
      (rest others : List Char) :
      (", ".intercalate (inlineItems (item :: items))).toList ++ others ≠ ']' :: rest := by
    obtain ⟨first, more, isWritten, -, notClosing⟩ := exists_first item literal
    have commas := following_eq_toList_intercalate (inlineValue item) (inlineItems items)
    rw [following_cons, isWritten] at commas
    rw [inlineItems, ← (List.cons_eq_cons.1 (List.cons_eq_cons.1 commas).2).2]
    exact fun same => notClosing (List.cons_eq_cons.1 same).1
  rw [toList_list, toList_list] at same
  simp only [List.cons_append, List.append_assoc, List.nil_append, List.cons.injEq,
    true_and] at same
  cases left with
  | nil =>
      cases right with
      | nil => exact same
      | cons item items =>
          exact absurd same.symm (opens item items (rightLiteral item List.mem_cons_self) _ _)
  | cons item items =>
      cases right with
      | nil => exact absurd same (opens item items (leftLiteral item List.mem_cons_self) _ _)
      | cons other others =>
          rw [inlineItems, inlineItems] at same ⊢
          rw [following_eq_toList_intercalate, following_eq_toList_intercalate]
          exact congrArg (fun chars => ',' :: ' ' :: chars) same

/-- Maps that are written alike are enumerated alike. -/
theorem following_eq_of_map
    {left right : List (String × AttrValue)}
    (same : (inlineValue (.map left)).toList ++ leftRest =
      (inlineValue (.map right)).toList ++ rightRest) :
    following (inlineEntries left) ++ ' ' :: '}' :: leftRest =
      following (inlineEntries right) ++ ' ' :: '}' :: rightRest := by
  have toList_map (entry : String × AttrValue) (entries : List (String × AttrValue)) :
      (inlineValue (.map (entry :: entries))).toList = '{' :: ' ' ::
        ((", ".intercalate (inlineEntries (entry :: entries))).toList ++ [' ', '}']) := by
    simp [inlineValue, inlineEntries, inlineMap, openBrace, closeBrace]
  cases left with
  | nil =>
      cases right with
      | nil =>
          have restsSame : leftRest = rightRest := List.append_cancel_left same
          rw [restsSame]
      | cons entry entries =>
          rw [toList_map] at same
          cases same
  | cons entry entries =>
      cases right with
      | nil =>
          rw [toList_map] at same
          cases same
      | cons other others =>
          simp only [toList_map, List.cons_append, List.append_assoc, List.nil_append,
            List.cons.injEq, true_and] at same
          rw [inlineEntries, inlineEntries] at same ⊢
          rw [following_eq_toList_intercalate, following_eq_toList_intercalate]
          exact congrArg (fun chars => ',' :: ' ' :: chars) same

/-! ## Reading values -/

mutual

/-- A literal value can be read off the beginning of what is left of a line. -/
theorem inlineValue_unique
    (left : AttrValue)
    {leftRest rightRest : List Char}
    {right : AttrValue}
    (leftLiteral : left.IsLiteral)
    (rightLiteral : right.IsLiteral)
    (leftEnds : EndsNumeral leftRest)
    (rightEnds : EndsNumeral rightRest)
    (same : (inlineValue left).toList ++ leftRest = (inlineValue right).toList ++ rightRest) :
    left.spelled = right.spelled ∧ leftRest = rightRest := by
  -- Only a number needs to know what follows it; the other kinds have ends of their own.
  have sameKind := kind_eq leftLiteral rightLiteral same
  cases left with
  | text leftText =>
      cases right with
      | text rightText =>
          rw [inlineValue, inlineValue] at same
          obtain ⟨rfl, restsSame⟩ := quote_unique same
          exact ⟨rfl, restsSame⟩
      | _ => cases sameKind
  | number leftNumber =>
      cases right with
      | number rightNumber =>
          rw [inlineValue, inlineValue] at same
          obtain ⟨sameChars, restsSame⟩ := eq_of_append_eq_append_of_run
            (numeral_write leftNumber).numeric (numeral_write rightNumber).numeric
            leftEnds rightEnds same
          rw [AttrValue.spelled, AttrValue.spelled, String.toList_inj.1 sameChars]
          exact ⟨rfl, restsSame⟩
      | _ => cases sameKind
  | bool leftBool =>
      cases right with
      | bool rightBool =>
          cases leftBool <;> cases rightBool
          case false.false | true.true => exact ⟨rfl, List.append_cancel_left same⟩
          case false.true | true.false => cases same
      | _ => cases sameKind
  | list leftItems =>
      cases right with
      | list rightItems =>
          have leftLiterals := (AttrValue.mentionsOnly_list_iff leftItems).1 leftLiteral
          have rightLiterals := (AttrValue.mentionsOnly_list_iff rightItems).1 rightLiteral
          obtain ⟨sameItems, restsSame⟩ := followingItems_unique leftItems leftLiterals
            rightLiterals (following_eq_of_list leftLiterals rightLiterals same)
          rw [AttrValue.spelled, AttrValue.spelled, sameItems]
          exact ⟨rfl, restsSame⟩
      | _ => cases sameKind
  | map leftEntries =>
      cases right with
      | map rightEntries =>
          have leftLiterals := (AttrValue.mentionsOnly_map_iff leftEntries).1 leftLiteral
          have rightLiterals := (AttrValue.mentionsOnly_map_iff rightEntries).1 rightLiteral
          obtain ⟨sameEntries, restsSame⟩ := followingEntries_unique leftEntries leftLiterals
            rightLiterals (following_eq_of_map same)
          rw [AttrValue.spelled, AttrValue.spelled, sameEntries]
          exact ⟨rfl, restsSame⟩
      | _ => cases sameKind
  | reference => exact absurd leftLiteral (by simp)

theorem followingItems_unique
    (left : List AttrValue)
    {leftRest rightRest : List Char}
    {right : List AttrValue}
    (leftLiteral : ∀ item ∈ left, item.IsLiteral)
    (rightLiteral : ∀ item ∈ right, item.IsLiteral)
    (same : following (inlineItems left) ++ ']' :: leftRest =
      following (inlineItems right) ++ ']' :: rightRest) :
    spelledItems left = spelledItems right ∧ leftRest = rightRest := by
  cases left with
  | nil =>
      cases right with
      | nil => exact ⟨rfl, (List.cons_eq_cons.1 same).2⟩
      | cons => cases same
  | cons item items =>
      cases right with
      | nil => cases same
      | cons other others =>
          obtain ⟨itemLiteral, itemsLiteral⟩ := List.forall_mem_cons.1 leftLiteral
          obtain ⟨otherLiteral, othersLiteral⟩ := List.forall_mem_cons.1 rightLiteral
          have ends (texts : List String) (rest : List Char) :
              EndsNumeral (following texts ++ ']' :: rest) :=
            endsNumeral_following texts (endsNumeral_cons (by decide))
          simp only [inlineItems, following_cons, List.cons_append, List.append_assoc,
            List.cons.injEq, true_and] at same
          obtain ⟨sameItem, sameLater⟩ := inlineValue_unique item itemLiteral otherLiteral
            (ends _ _) (ends _ _) same
          obtain ⟨sameItems, restsSame⟩ :=
            followingItems_unique items itemsLiteral othersLiteral sameLater
          rw [spelledItems, spelledItems, sameItem, sameItems]
          exact ⟨rfl, restsSame⟩

theorem followingEntries_unique
    (left : List (String × AttrValue))
    {leftRest rightRest : List Char}
    {right : List (String × AttrValue)}
    (leftLiteral : Attributes.IsLiteral left)
    (rightLiteral : Attributes.IsLiteral right)
    (same : following (inlineEntries left) ++ ' ' :: '}' :: leftRest =
      following (inlineEntries right) ++ ' ' :: '}' :: rightRest) :
    spelledEntries left = spelledEntries right ∧ leftRest = rightRest := by
  cases left with
  | nil =>
      cases right with
      | nil => exact ⟨rfl, (List.cons_eq_cons.1 (List.cons_eq_cons.1 same).2).2⟩
      | cons => cases same
  | cons entry entries =>
      cases right with
      | nil => cases same
      | cons other others =>
          obtain ⟨name, value⟩ := entry
          obtain ⟨otherName, otherValue⟩ := other
          obtain ⟨entryLiteral, entriesLiteral⟩ := List.forall_mem_cons.1 leftLiteral
          obtain ⟨otherLiteral, othersLiteral⟩ := List.forall_mem_cons.1 rightLiteral
          have ends (texts : List String) (rest : List Char) :
              EndsNumeral (following texts ++ ' ' :: '}' :: rest) :=
            endsNumeral_following texts (endsNumeral_cons (by decide))
          have equals : " = ".toList = [' ', '=', ' '] := rfl
          simp only [inlineEntries, following_cons, String.toList_append, equals,
            List.cons_append, List.nil_append, List.append_assoc, List.cons.injEq,
            true_and] at same
          obtain ⟨rfl, sameValues⟩ := key_unique same
          simp only [List.cons.injEq, true_and] at sameValues
          obtain ⟨sameValue, sameLater⟩ := inlineValue_unique value entryLiteral otherLiteral
            (ends _ _) (ends _ _) sameValues
          obtain ⟨sameEntries, restsSame⟩ :=
            followingEntries_unique entries entriesLiteral othersLiteral sameLater
          rw [spelledEntries, spelledEntries, sameValue, sameEntries]
          exact ⟨rfl, restsSame⟩

end

/-! ## Line breaks -/

theorem newline_not_mem_intercalate
    {texts : List String}
    (none : ∀ text ∈ texts, '\n' ∉ text.toList) :
    '\n' ∉ (", ".intercalate texts).toList := by
  have notFollowing : '\n' ∉ following texts := by
    intro member
    obtain ⟨text, isText, member⟩ := List.mem_flatMap.1 member
    simp [none text isText] at member
  cases texts with
  | nil => simp
  | cons first others =>
      rw [following_eq_toList_intercalate] at notFollowing
      exact fun member => notFollowing (List.mem_cons_of_mem _ (List.mem_cons_of_mem _ member))

mutual

/-- There are no line breaks in a literal value. -/
theorem newline_not_mem_inlineValue
    (value : AttrValue)
    (literal : value.IsLiteral) :
    '\n' ∉ (inlineValue value).toList := by
  cases value with
  | text value => exact newline_not_mem_quote value
  | number value =>
      intro member
      exact absurd ((numeral_write value).numeric _ member) (by decide)
  | bool value => cases value <;> decide
  | list items =>
      have literals := (AttrValue.mentionsOnly_list_iff items).1 literal
      have inside := newline_not_mem_intercalate (newline_not_mem_inlineItems items literals)
      rw [toList_list]
      simpa using inside
  | map entries =>
      have literals := (AttrValue.mentionsOnly_map_iff entries).1 literal
      have inside := newline_not_mem_intercalate (newline_not_mem_inlineEntries entries literals)
      rw [inlineValue, inlineMap.eq_def]
      split
      · decide
      · simpa [openBrace, closeBrace] using inside
  | reference => exact absurd literal (by simp)

theorem newline_not_mem_inlineItems
    (items : List AttrValue)
    (literal : ∀ item ∈ items, item.IsLiteral) :
    ∀ text ∈ inlineItems items, '\n' ∉ text.toList := by
  cases items with
  | nil => simp [inlineItems]
  | cons item others =>
      obtain ⟨itemLiteral, othersLiteral⟩ := List.forall_mem_cons.1 literal
      rw [inlineItems]
      exact List.forall_mem_cons.2 ⟨newline_not_mem_inlineValue item itemLiteral,
        newline_not_mem_inlineItems others othersLiteral⟩

theorem newline_not_mem_inlineEntries
    (entries : List (String × AttrValue))
    (literal : Attributes.IsLiteral entries) :
    ∀ text ∈ inlineEntries entries, '\n' ∉ text.toList := by
  cases entries with
  | nil => simp [inlineEntries]
  | cons entry others =>
      obtain ⟨name, value⟩ := entry
      obtain ⟨entryLiteral, othersLiteral⟩ := List.forall_mem_cons.1 literal
      have inside := newline_not_mem_inlineValue value entryLiteral
      rw [inlineEntries]
      refine List.forall_mem_cons.2 ⟨?_, newline_not_mem_inlineEntries others othersLiteral⟩
      simp [newline_not_mem_key, inside]

end

end CloudPlan.Terraform.Hcl
