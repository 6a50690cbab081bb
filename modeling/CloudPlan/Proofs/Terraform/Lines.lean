import CloudPlan.Proofs.Terraform.Inline

/-!
# Lines of blocks

An attribute, a map over several lines and a block each begin with a line that tells what
they are, whatever space there is before its equals sign.  What stands inside a map or a block
is indented, up to the closing brace.  So lines that are a way of writing attributes and blocks
are one of nothing else, if empty lines are left out.
-/

namespace CloudPlan.Terraform.Hcl

open Code
open AttrValue (spelledEntries)
open Block (spelledBlocks)
open Json (numeral_write)

/-! ## Labels -/

/-- Labels in quotes, each before a space. -/
def labelled (labels : List String) : List Char :=
  labels.flatMap fun label => (quote label).toList ++ [' ']

variable {leftRest rightRest : List Char}

theorem labelled_cons (label : String) (labels : List String) :
    labelled (label :: labels) = (quote label).toList ++ ' ' :: labelled labels := by
  simp [labelled]

/-- Labels with the brace behind them begin with a quote or the brace. -/
theorem head?_labelled (labels : List String) :
    ∀ next ∈ (labelled labels ++ '{' :: leftRest).head?, next = '"' ∨ next = '{' := by
  cases labels with
  | nil => simp [labelled]
  | cons label labels => simp [labelled_cons, toList_quote]

/-- Labels can be read off what is left of a line, up to the brace. -/
theorem labelled_unique
    {left right : List String}
    (same : labelled left ++ '{' :: leftRest = labelled right ++ '{' :: rightRest) :
    left = right ∧ leftRest = rightRest := by
  induction left generalizing right with
  | nil =>
      cases right with
      | nil => exact ⟨rfl, (List.cons_eq_cons.1 same).2⟩
      | cons =>
          rw [labelled_cons, toList_quote] at same
          cases same
  | cons label labels inductionHypothesis =>
      cases right with
      | nil =>
          rw [labelled_cons, toList_quote] at same
          cases same
      | cons other others =>
          rw [labelled_cons, labelled_cons, List.append_assoc, List.append_assoc] at same
          obtain ⟨rfl, sameLater⟩ := quote_unique same
          obtain ⟨rfl, restsSame⟩ := inductionHypothesis (List.cons_eq_cons.1 sameLater).2
          exact ⟨rfl, restsSame⟩

theorem newline_not_mem_labelled (labels : List String) : '\n' ∉ labelled labels := by
  induction labels with
  | nil => simp [labelled]
  | cons label labels inductionHypothesis =>
      rw [labelled_cons]
      simp [newline_not_mem_quote, inductionHypothesis]

/-! ## First lines -/

/-- What the first line of something says. -/
inductive Opening where
  /-- An attribute with a value on the same line. -/
  | entry (name : String) (value : AttrValue)
  /-- An attribute with a map on the lines below. -/
  | map (name : String)
  /-- A block that holds nothing. -/
  | empty (type : String) (labels : List String)
  /-- A block that holds what is on the lines below. -/
  | block (type : String) (labels : List String)

namespace Opening

/-- The name that a line begins with. -/
def name : Opening → String
  | entry name _ => name
  | map name => name
  | empty type _ => type
  | block type _ => type

/-- What stands on the line behind the name and the space after it. -/
def tail : Opening → List Char
  | entry _ value => '=' :: ' ' :: (inlineValue value).toList
  | map _ => ['=', ' ', '{']
  | empty _ labels => labelled labels ++ ['{', '}']
  | block _ labels => labelled labels ++ ['{']

/-- Values are literal, and types of blocks are identifiers. -/
def IsSound : Opening → Prop
  | entry _ value => value.IsLiteral
  | map _ => True
  | empty type _ => isIdentifier type = true
  | block type _ => isIdentifier type = true

/-- The same with numbers as they are written. -/
def spelled : Opening → Opening
  | entry name value => entry name value.spelled
  | map name => map name
  | empty type labels => empty type labels
  | block type labels => block type labels

/-- A line is a way of writing a first line. -/
structure Writes (opening : Opening) (line : String) : Prop where
  sound : opening.IsSound
  spaced : ∃ spaces, line.toList =
    (key opening.name).toList ++ ' ' :: (List.replicate spaces ' ' ++ opening.tail)

theorem inlineValue_ne_brace (value : AttrValue) (literal : value.IsLiteral) :
    (inlineValue value).toList ≠ ['{'] := by
  intro same
  obtain ⟨first, more, isWritten, isKind, -⟩ := exists_first value literal
  rw [same] at isWritten
  obtain ⟨rfl, -⟩ := List.cons_eq_cons.1 isWritten
  cases value with
  | map entries =>
      rw [inlineValue, inlineMap.eq_def] at same
      split at same <;> simp [openBrace, closeBrace] at same
  | _ => cases isKind

theorem equals_ne_labelled (labels : List String) :
    '=' :: leftRest ≠ labelled labels ++ '{' :: rightRest := by
  intro same
  have first : '=' ∈ (labelled labels ++ '{' :: rightRest).head? := by
    rw [← same]
    rfl
  exact absurd (head?_labelled labels '=' first) (by decide)

/-- Behind its name a line says one thing only. -/
theorem spelled_eq_of_tail_eq
    {left right : Opening}
    (leftSound : left.IsSound)
    (rightSound : right.IsSound)
    (sameName : left.name = right.name)
    (sameTail : left.tail = right.tail) :
    left.spelled = right.spelled := by
  cases left with
  | entry leftName leftValue =>
      cases right with
      | entry rightName rightValue =>
          have sameText : (inlineValue leftValue).toList ++ [] =
              (inlineValue rightValue).toList ++ [] := by
            rw [List.append_nil, List.append_nil]
            exact (List.cons_eq_cons.1 (List.cons_eq_cons.1 sameTail).2).2
          have ends : EndsNumeral [] := by simp [EndsNumeral]
          obtain ⟨sameValue, -⟩ :=
            inlineValue_unique leftValue leftSound rightSound ends ends sameText
          exact congrArg₂ entry sameName sameValue
      | map =>
          have isBrace := (List.cons_eq_cons.1 (List.cons_eq_cons.1 sameTail).2).2
          exact absurd isBrace (inlineValue_ne_brace leftValue leftSound)
      | empty | block => exact absurd sameTail (equals_ne_labelled _)
  | map leftName =>
      cases right with
      | entry rightName rightValue =>
          have isBrace := (List.cons_eq_cons.1 (List.cons_eq_cons.1 sameTail).2).2
          exact absurd isBrace.symm (inlineValue_ne_brace rightValue rightSound)
      | map => exact congrArg map sameName
      | empty | block => exact absurd sameTail (equals_ne_labelled _)
  | empty leftType leftLabels =>
      cases right with
      | entry | map => exact absurd sameTail.symm (equals_ne_labelled _)
      | empty rightType rightLabels =>
          exact congrArg₂ empty sameName (labelled_unique sameTail).1
      | block => cases (labelled_unique sameTail).2
  | block leftType leftLabels =>
      cases right with
      | entry | map => exact absurd sameTail.symm (equals_ne_labelled _)
      | empty => cases (labelled_unique sameTail).2
      | block rightType rightLabels =>
          exact congrArg₂ block sameName (labelled_unique sameTail).1

theorem head?_tail (opening : Opening) : ∀ next ∈ opening.tail.head?, next ≠ ' ' := by
  have labels (labels : List String) (rest : List Char) :
      ∀ next ∈ (labelled labels ++ '{' :: rest).head?, next ≠ ' ' := by
    intro next isNext
    rcases head?_labelled labels next isNext with rfl | rfl <;> decide
  cases opening with
  | entry | map =>
      rintro _ ⟨⟩
      decide
  | empty | block => exact labels _ _

/-- A line is a way of writing one thing only. -/
theorem Writes.unique
    {left right : Opening}
    {line : String}
    (leftWrites : left.Writes line)
    (rightWrites : right.Writes line) :
    left.spelled = right.spelled := by
  obtain ⟨leftSound, leftSpaces, leftLine⟩ := leftWrites
  obtain ⟨rightSound, rightSpaces, rightLine⟩ := rightWrites
  obtain ⟨sameName, sameLater⟩ := key_unique (leftLine.symm.trans rightLine)
  have noSpace (opening : Opening) : ∀ next ∈ opening.tail.head?, ¬next = ' ' :=
    head?_tail opening
  obtain ⟨-, sameTail⟩ := eq_of_append_eq_append_of_run
    (fun _ => List.eq_of_mem_replicate) (fun _ => List.eq_of_mem_replicate)
    (noSpace left) (noSpace right) sameLater
  exact spelled_eq_of_tail_eq leftSound rightSound sameName sameTail

end Opening

/-- A line is not empty, and it is one line only. -/
structure IsSolid (line : String) : Prop where
  ne_empty : line ≠ ""
  newline_not_mem : '\n' ∉ line.toList

theorem Opening.Writes.solid
    {opening : Opening}
    {line : String}
    (writes : opening.Writes line) :
    IsSolid line := by
  obtain ⟨sound, spaces, isLine⟩ := writes
  have notInTail : '\n' ∉ opening.tail := by
    cases opening with
    | entry name value => simp [tail, newline_not_mem_inlineValue value sound]
    | map => simp [tail]
    | empty | block => simp [tail, newline_not_mem_labelled]
  constructor
  case ne_empty =>
    rintro rfl
    simp at isLine
  case newline_not_mem => simp [isLine, newline_not_mem_key, notInTail]

/-! ## Attributes and blocks -/

/-- A line as it stands inside something. -/
def inside (line : String) : String :=
  "  " ++ line

/-- Lines, none of them empty, are a way of writing attributes and then blocks. -/
inductive Writing : Attributes → List Block → List String → Prop
  | nil : Writing [] [] []
  | entry {name : String} {value : AttrValue} {attributes : Attributes} {blocks : List Block}
      {line : String} {lines : List String} :
      (Opening.entry name value).Writes line →
      Writing attributes blocks lines →
      Writing ((name, value) :: attributes) blocks (line :: lines)
  | map {name : String} {entries attributes : Attributes} {blocks : List Block}
      {line : String} {inner lines : List String} :
      (Opening.map name).Writes line →
      Writing entries [] inner →
      Writing attributes blocks lines →
      Writing ((name, .map entries) :: attributes) blocks
        (line :: (inner.map inside ++ closeBrace :: lines))
  | empty {type : String} {labels : List String} {blocks : List Block}
      {line : String} {lines : List String} :
      (Opening.empty type labels).Writes line →
      Writing [] blocks lines →
      Writing [] ({ type, labels } :: blocks) (line :: lines)
  | block {type : String} {labels : List String} {attributes : Attributes}
      {nested blocks : List Block} {line : String} {inner lines : List String} :
      (Opening.block type labels).Writes line →
      Writing attributes nested inner →
      Writing [] blocks lines →
      Writing [] ({ type, labels, attributes, blocks := nested } :: blocks)
        (line :: (inner.map inside ++ closeBrace :: lines))

theorem toList_inside (line : String) : (inside line).toList = ' ' :: ' ' :: line.toList := by
  rw [inside, String.toList_append]
  rfl

theorem inside_injective : Function.Injective inside := by
  intro left right same
  have sameChars := congrArg String.toList same
  rw [toList_inside, toList_inside] at sameChars
  exact String.toList_inj.1 (List.cons_eq_cons.1 (List.cons_eq_cons.1 sameChars).2).2

/-- What stands inside something ends where the brace closes. -/
theorem inside_unique
    {left right leftLines rightLines : List String}
    (same : left.map inside ++ closeBrace :: leftLines =
      right.map inside ++ closeBrace :: rightLines) :
    left = right ∧ leftLines = rightLines := by
  have within (lines : List String) : ∀ line ∈ lines.map inside, ∃ inner, line = inside inner := by
    rw [List.forall_mem_map]
    exact fun line _ => ⟨line, rfl⟩
  have closing (lines : List String) :
      ∀ next ∈ (closeBrace :: lines).head?, ¬∃ inner, next = inside inner := by
    rintro _ ⟨⟩ ⟨inner, isInside⟩
    have sameChars := congrArg String.toList isInside
    rw [toList_inside] at sameChars
    cases sameChars
  obtain ⟨sameInner, sameLater⟩ := eq_of_append_eq_append_of_run
    (within left) (within right) (closing leftLines) (closing rightLines) same
  exact ⟨inside_injective.list_map sameInner, (List.cons_eq_cons.1 sameLater).2⟩

/-- Lines are a way of writing one thing only. -/
theorem Writing.unique
    {attributes others : Attributes}
    {blocks otherBlocks : List Block}
    {lines otherLines : List String}
    (left : Writing attributes blocks lines)
    (right : Writing others otherBlocks otherLines)
    (same : lines = otherLines) :
    spelledEntries attributes = spelledEntries others ∧
      spelledBlocks blocks = spelledBlocks otherBlocks := by
  -- The first line tells how the other way of writing goes on, and the brace where that ends.
  induction left generalizing others otherBlocks otherLines with
  | nil =>
      cases right with
      | nil => exact ⟨rfl, rfl⟩
      | _ => cases same
  | entry writes _ inductionHypothesis =>
      cases right with
      | nil => cases same
      | entry otherWrites otherRest =>
          obtain ⟨rfl, sameLines⟩ := List.cons_eq_cons.1 same
          obtain ⟨rfl, sameValue⟩ := Opening.entry.inj (writes.unique otherWrites)
          obtain ⟨sameAttributes, sameBlocks⟩ := inductionHypothesis otherRest sameLines
          rw [spelledEntries, spelledEntries, sameValue, sameAttributes]
          exact ⟨rfl, sameBlocks⟩
      | map otherWrites | empty otherWrites | block otherWrites =>
          obtain ⟨rfl, -⟩ := List.cons_eq_cons.1 same
          cases writes.unique otherWrites
  | map writes _ _ innerHypothesis inductionHypothesis =>
      cases right with
      | nil => cases same
      | map otherWrites otherInner otherRest =>
          obtain ⟨rfl, sameLater⟩ := List.cons_eq_cons.1 same
          obtain ⟨sameInner, sameLines⟩ := inside_unique sameLater
          obtain rfl := Opening.map.inj (writes.unique otherWrites)
          obtain ⟨sameEntries, -⟩ := innerHypothesis otherInner sameInner
          obtain ⟨sameAttributes, sameBlocks⟩ := inductionHypothesis otherRest sameLines
          simp only [spelledEntries, AttrValue.spelled, sameEntries, sameAttributes, sameBlocks,
            and_self]
      | entry otherWrites | empty otherWrites | block otherWrites =>
          obtain ⟨rfl, -⟩ := List.cons_eq_cons.1 same
          cases writes.unique otherWrites
  | empty writes _ inductionHypothesis =>
      cases right with
      | nil => cases same
      | empty otherWrites otherRest =>
          obtain ⟨rfl, sameLines⟩ := List.cons_eq_cons.1 same
          obtain ⟨rfl, rfl⟩ := Opening.empty.inj (writes.unique otherWrites)
          obtain ⟨-, sameBlocks⟩ := inductionHypothesis otherRest sameLines
          rw [spelledBlocks, spelledBlocks, sameBlocks]
          exact ⟨rfl, rfl⟩
      | entry otherWrites | map otherWrites | block otherWrites =>
          obtain ⟨rfl, -⟩ := List.cons_eq_cons.1 same
          cases writes.unique otherWrites
  | block writes _ _ innerHypothesis inductionHypothesis =>
      cases right with
      | nil => cases same
      | block otherWrites otherInner otherRest =>
          obtain ⟨rfl, sameLater⟩ := List.cons_eq_cons.1 same
          obtain ⟨sameInner, sameLines⟩ := inside_unique sameLater
          obtain ⟨rfl, rfl⟩ := Opening.block.inj (writes.unique otherWrites)
          obtain ⟨sameEntries, sameNested⟩ := innerHypothesis otherInner sameInner
          obtain ⟨-, sameBlocks⟩ := inductionHypothesis otherRest sameLines
          simp only [spelledBlocks, Block.spelled, sameEntries, sameNested, sameBlocks, and_self]
      | entry otherWrites | map otherWrites | empty otherWrites =>
          obtain ⟨rfl, -⟩ := List.cons_eq_cons.1 same
          cases writes.unique otherWrites

theorem IsSolid.inside
    {line : String}
    (solid : IsSolid line) :
    IsSolid (inside line) := by
  have chars := toList_inside line
  constructor
  case ne_empty =>
    intro isEmpty
    simp [isEmpty] at chars
  case newline_not_mem => simp [chars, solid.newline_not_mem]

theorem isSolid_closeBrace : IsSolid closeBrace :=
  ⟨by decide, by decide⟩

/-- All lines are solid. -/
theorem Writing.solid
    {attributes : Attributes}
    {blocks : List Block}
    {lines : List String}
    (writing : Writing attributes blocks lines) :
    ∀ line ∈ lines, IsSolid line := by
  have enclosed {inner lines : List String} (innerSolid : ∀ line ∈ inner, IsSolid line)
      (linesSolid : ∀ line ∈ lines, IsSolid line) :
      ∀ line ∈ inner.map inside ++ closeBrace :: lines, IsSolid line := by
    rw [List.forall_mem_append, List.forall_mem_map, List.forall_mem_cons]
    exact ⟨fun line member => (innerSolid line member).inside, isSolid_closeBrace, linesSolid⟩
  induction writing with
  | nil => simp
  | entry writes _ inductionHypothesis | empty writes _ inductionHypothesis =>
      exact List.forall_mem_cons.2 ⟨writes.solid, inductionHypothesis⟩
  | map writes _ _ innerHypothesis inductionHypothesis
  | block writes _ _ innerHypothesis inductionHypothesis =>
      exact List.forall_mem_cons.2
        ⟨writes.solid, enclosed innerHypothesis inductionHypothesis⟩

end CloudPlan.Terraform.Hcl
