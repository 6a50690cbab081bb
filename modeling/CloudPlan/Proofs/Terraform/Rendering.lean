import CloudPlan.Proofs.Terraform.Lines

/-!
# Rendering is unambiguous

The lines that are rendered are, without the empty ones, a way of writing the blocks.  Since
lines are a way of writing one thing only, blocks with the same text are the same, but for
numbers that are written alike.
-/

namespace CloudPlan.Terraform.Hcl

open Code
open AttrValue (spelledEntries spelledItems spelledEntries_eq_nil_iff)
open Block (spelledBlocks spelledBlocks_eq_nil_iff)

/-- The types of a block and of all that are nested in it are identifiers. -/
inductive IsTyped : Block → Prop
  | intro {block : Block} :
      isIdentifier block.type = true →
      (∀ nested ∈ block.blocks, IsTyped nested) →
      IsTyped block

/-! ## Lines that are not empty -/

/-- The lines that are not empty. -/
def solid (lines : List String) : List String :=
  lines.filter (· ≠ "")

theorem solid_indent (lines : List String) :
    solid (indent lines) = (solid lines).map inside := by
  induction lines with
  | nil => rfl
  | cons line lines inductionHypothesis =>
      have notEmpty : inside line ≠ "" := by
        intro isEmpty
        have chars := toList_inside line
        rw [isEmpty] at chars
        cases chars
      unfold solid indent at inductionHypothesis ⊢
      by_cases isEmpty : line = ""
      · simpa [isEmpty] using inductionHypothesis
      · have isInside : "  " ++ line ≠ "" := notEmpty
        simpa [isEmpty, isInside, inside] using inductionHypothesis

theorem solid_enclose (opening : String) (lines : List String) :
    solid (enclose opening lines) =
      (opening ++ " " ++ openBrace) :: ((solid lines).map inside ++ [closeBrace]) := by
  have notEmpty : opening ++ " " ++ openBrace ≠ "" := by
    simp [openBrace]
  have kept : solid (enclose opening lines) =
      (opening ++ " " ++ openBrace) :: (solid (indent lines) ++ [closeBrace]) := by
    simp [solid, enclose, notEmpty, closeBrace]
  rw [kept, solid_indent]

theorem solid_separate (paragraphs : List (List String)) :
    solid (separate paragraphs) = paragraphs.flatMap solid := by
  induction paragraphs with
  | nil => rfl
  | cons first others inductionHypothesis =>
      cases others with
      | nil => simp [separate]
      | cons second others =>
          rw [List.flatMap_cons, ← inductionHypothesis, separate, separate,
            List.intercalate_cons_cons]
          simp [solid]

/-! ## Attributes -/

/-- Lines are a way of writing pieces, whatever space there is before equals signs. -/
inductive Loose : List Piece → List String → Prop
  | nil : Loose [] []
  | line {name value : String} {width : Nat} {rest : List Piece} {lines : List String} :
      Loose rest lines →
      Loose (.line name value :: rest) ((pad width name ++ " = " ++ value) :: lines)
  | paragraph {inner : List String} {rest : List Piece} {lines : List String} :
      Loose rest lines →
      Loose (.paragraph inner :: rest) (solid inner ++ lines)

/-- Keys with their values as pieces. -/
def linesOf (pairs : List (String × String)) : List Piece :=
  pairs.map fun pair => .line pair.1 pair.2

theorem Loose.align
    {rest : List Piece}
    {lines : List String}
    (loose : Loose rest lines)
    (pairs : List (String × String)) :
    Loose (linesOf pairs ++ rest) (align pairs ++ lines) := by
  unfold Hcl.align linesOf
  generalize alignment pairs = width
  induction pairs with
  | nil => exact loose
  | cons pair pairs inductionHypothesis => exact .line inductionHypothesis

theorem flatMap_solid_alignAll (pairs : List (String × String)) :
    (alignAll pairs).flatMap solid = align pairs := by
  have kept : solid (align pairs) = align pairs := by
    unfold solid align
    rw [List.filter_eq_self, List.forall_mem_map]
    simp
  unfold alignAll
  split
  next isEmpty =>
    rw [List.isEmpty_iff.1 isEmpty]
    rfl
  next => rw [List.flatMap_singleton, kept]

/-- The paragraphs of pieces are a way of writing them. -/
theorem loose_paragraphs (pairs : List (String × String)) (pieces : List Piece) :
    Loose (linesOf pairs.reverse ++ pieces) ((paragraphs pairs pieces).flatMap solid) := by
  -- The pairs that wait for their alignment come first: they stand before all other pieces.
  induction pieces generalizing pairs with
  | nil =>
      rw [paragraphs, flatMap_solid_alignAll]
      simpa using Loose.nil.align pairs.reverse
  | cons piece rest inductionHypothesis =>
      cases piece with
      | line name value =>
          have written := inductionHypothesis ((name, value) :: pairs)
          rw [paragraphs]
          simpa [linesOf] using written
      | paragraph inner =>
          have written := inductionHypothesis []
          rw [paragraphs, List.flatMap_append, flatMap_solid_alignAll, List.flatMap_cons]
          exact written.paragraph.align pairs.reverse

theorem writes_entry
    {name : String}
    {value : AttrValue}
    (literal : value.IsLiteral)
    (width : Nat) :
    (Opening.entry name value).Writes (pad width (key name) ++ " = " ++ inlineValue value) := by
  refine ⟨literal, width - (key name).length, ?_⟩
  have equals : " = ".toList = [' ', '=', ' '] := rfl
  simp only [pad, String.toList_append, String.toList_ofList, equals, Opening.name, Opening.tail,
    List.append_assoc, List.cons_append, List.nil_append]
  rw [← List.cons_append, ← List.replicate_succ, List.replicate_succ']
  simp

theorem writes_map (name : String) :
    (Opening.map name).Writes (key name ++ " =" ++ " " ++ openBrace) := by
  refine ⟨trivial, 0, ?_⟩
  simp [openBrace, Opening.name, Opening.tail]

/-- An attribute takes one line unless its value is a map. -/
theorem piece_cases (name : String) (value : AttrValue) :
    piece name value = .line (key name) (inlineValue value) ∨
      ∃ entries, value = .map entries ∧
        piece name value = .paragraph
          (enclose (key name ++ " =") (separate (paragraphs [] (pieces entries)))) := by
  cases value with
  | map entries =>
      cases entries with
      | nil => exact Or.inl (by simp [piece])
      | cons entry entries => exact Or.inr ⟨_, rfl, by simp [piece]⟩
  | _ => exact Or.inl (by simp [piece])

/-- A way of writing the pieces of attributes is one of writing the attributes. -/
theorem writing_of_loose
    (attributes : Attributes)
    (literal : attributes.IsLiteral)
    {blocks : List Block}
    {lines more : List String}
    (loose : Loose (pieces attributes) lines)
    (writing : Writing [] blocks more) :
    Writing attributes blocks (lines ++ more) := by
  match attributes with
  | [] =>
      rw [pieces] at loose
      cases loose
      exact writing
  | (name, value) :: rest =>
      obtain ⟨valueLiteral, restLiteral⟩ := List.forall_mem_cons.1 literal
      rw [pieces] at loose
      rcases piece_cases name value with isLine | ⟨entries, rfl, isParagraph⟩
      · rw [isLine] at loose
        cases loose with
        | line restLoose =>
            exact .entry (writes_entry valueLiteral _)
              (writing_of_loose rest restLiteral restLoose writing)
      · rw [isParagraph] at loose
        cases loose with
        | paragraph restLoose =>
            have entriesLiteral := (AttrValue.mentionsOnly_map_iff entries).1 valueLiteral
            have inner : Writing entries []
                ((paragraphs [] (pieces entries)).flatMap solid ++ []) :=
              writing_of_loose entries entriesLiteral (loose_paragraphs [] (pieces entries)) .nil
            rw [solid_enclose, solid_separate, List.append_assoc]
            rw [List.append_nil] at inner
            simpa using Writing.map (writes_map name) inner
              (writing_of_loose rest restLiteral restLoose writing)

/-! ## Blocks -/

theorem toList_header (type : String) (labels : List String) (rest : List Char) :
    (header { type, labels }).toList ++ ' ' :: rest =
      type.toList ++ ' ' :: (labelled labels ++ rest) := by
  rw [header, String.toList_intercalate]
  generalize type = first
  induction labels generalizing first with
  | nil => simp [labelled]
  | cons label labels inductionHypothesis =>
      have later := inductionHypothesis (quote label)
      simp only [List.map_cons] at later ⊢
      rw [List.intercalate_cons_cons, List.append_assoc, later, labelled_cons]
      simp

theorem writes_empty
    {type : String}
    (isName : isIdentifier type = true)
    (labels : List String) :
    (Opening.empty type labels).Writes
      (header { type, labels } ++ " " ++ openBrace ++ closeBrace) := by
  refine ⟨isName, 0, ?_⟩
  have isHeader := toList_header type labels ['{', '}']
  simpa [openBrace, closeBrace, Opening.name, Opening.tail, key_of_isIdentifier isName]
    using isHeader

theorem writes_block
    {type : String}
    (isName : isIdentifier type = true)
    (labels : List String) :
    (Opening.block type labels).Writes (header { type, labels } ++ " " ++ openBrace) := by
  refine ⟨isName, 0, ?_⟩
  have isHeader := toList_header type labels ['{']
  simpa [openBrace, Opening.name, Opening.tail, key_of_isIdentifier isName] using isHeader

theorem blockLines_of_filled
    {type : String}
    {labels : List String}
    {attributes : Attributes}
    {nested : List Block}
    (filled : ¬(attributes = [] ∧ nested = [])) :
    blockLines { type, labels, attributes, blocks := nested } =
      enclose (header { type, labels })
        (separate (paragraphs [] (pieces attributes) ++ paragraphsOf nested)) := by
  rw [blockLines]
  rintro rfl rfl
  exact filled ⟨rfl, rfl⟩

/-- The lines of blocks are a way of writing them. -/
theorem writing_paragraphsOf
    (blocks : List Block)
    (typed : ∀ block ∈ blocks, IsTyped block)
    (literal : ∀ block ∈ blocks, block.IsLiteral) :
    Writing [] blocks ((paragraphsOf blocks).flatMap solid) := by
  match blocks with
  | [] => exact .nil
  | { type, labels, attributes, blocks := nested } :: rest =>
      obtain ⟨blockTyped, restTyped⟩ := List.forall_mem_cons.1 typed
      obtain ⟨blockLiteral, restLiteral⟩ := List.forall_mem_cons.1 literal
      obtain ⟨isName, nestedTyped⟩ := blockTyped
      obtain ⟨attributesLiteral, nestedLiteral⟩ := (Block.mentionsOnly_iff _).1 blockLiteral
      have following := writing_paragraphsOf rest restTyped restLiteral
      rw [paragraphsOf, List.flatMap_cons]
      by_cases isEmpty : attributes = [] ∧ nested = []
      · obtain ⟨rfl, rfl⟩ := isEmpty
        have written := writes_empty isName labels
        have kept : solid (blockLines { type, labels }) =
            [header { type, labels } ++ " " ++ openBrace ++ closeBrace] := by
          simp [solid, blockLines, written.solid.ne_empty]
        rw [kept]
        exact .empty written following
      · have inner := writing_of_loose attributes attributesLiteral
          (loose_paragraphs [] (pieces attributes))
          (writing_paragraphsOf nested nestedTyped nestedLiteral)
        rw [blockLines_of_filled isEmpty, solid_enclose, solid_separate, List.flatMap_append]
        simpa using Writing.block (writes_block isName labels) inner following

/-! ## Text -/

theorem toList_text_cons (line : String) (lines : List String) :
    (text (line :: lines)).toList = line.toList ++ '\n' :: (text lines).toList := by
  simp [text, String.toList_join]

/-- Lines can be read off a text. -/
theorem text_unique
    {left right : List String}
    (leftLines : ∀ line ∈ left, '\n' ∉ line.toList)
    (rightLines : ∀ line ∈ right, '\n' ∉ line.toList)
    (same : text left = text right) :
    left = right := by
  induction left generalizing right with
  | nil =>
      cases right with
      | nil => rfl
      | cons line lines =>
          have chars := congrArg String.toList same
          rw [toList_text_cons] at chars
          simp [text] at chars
  | cons line lines inductionHypothesis =>
      have chars := congrArg String.toList same
      rw [toList_text_cons] at chars
      cases right with
      | nil => simp [text] at chars
      | cons other others =>
          obtain ⟨lineWhole, linesWhole⟩ := List.forall_mem_cons.1 leftLines
          obtain ⟨otherWhole, othersWhole⟩ := List.forall_mem_cons.1 rightLines
          rw [toList_text_cons] at chars
          have whole {line : String} (noBreak : '\n' ∉ line.toList) : ∀ c ∈ line.toList, c ≠ '\n' :=
            fun c member isBreak => noBreak (isBreak ▸ member)
          have ends (rest : List Char) : ∀ next ∈ ('\n' :: rest).head?, ¬next ≠ '\n' := by
            rintro _ ⟨⟩
            simp
          obtain ⟨sameLine, sameLater⟩ := eq_of_append_eq_append_of_run
            (whole lineWhole) (whole otherWhole) (ends _) (ends _) chars
          have sameText := String.toList_inj.1 (List.cons_eq_cons.1 sameLater).2
          rw [String.toList_inj.1 sameLine, inductionHypothesis linesWhole othersWhole sameText]

/-- There are no line breaks in the lines of blocks. -/
theorem newline_not_mem_separate
    {paragraphs : List (List String)}
    {attributes : Attributes}
    {blocks : List Block}
    (writing : Writing attributes blocks (paragraphs.flatMap solid)) :
    ∀ line ∈ separate paragraphs, '\n' ∉ line.toList := by
  intro line member
  by_cases isEmpty : line = ""
  · simp [isEmpty]
  · have isSolid : line ∈ solid (separate paragraphs) :=
      List.mem_filter.2 ⟨member, by simpa using isEmpty⟩
    rw [solid_separate] at isSolid
    exact (writing.solid line isSolid).newline_not_mem

/-! ## Numbers as they are written -/

mutual

theorem inlineValue_spelled (value : AttrValue) :
    inlineValue value.spelled = inlineValue value := by
  cases value with
  | text | bool | reference => rfl
  | number => rfl
  | list items =>
      rw [AttrValue.spelled, inlineValue, inlineValue, inlineItems_spelledItems items]
  | map entries =>
      rw [AttrValue.spelled, inlineValue, inlineValue, inlineEntries_spelledEntries entries]

theorem inlineItems_spelledItems (items : List AttrValue) :
    inlineItems (spelledItems items) = inlineItems items := by
  cases items with
  | nil => rfl
  | cons item rest =>
      rw [spelledItems, inlineItems, inlineItems, inlineValue_spelled item,
        inlineItems_spelledItems rest]

theorem inlineEntries_spelledEntries (entries : List (String × AttrValue)) :
    inlineEntries (spelledEntries entries) = inlineEntries entries := by
  cases entries with
  | nil => rfl
  | cons entry rest =>
      obtain ⟨name, value⟩ := entry
      rw [spelledEntries, inlineEntries, inlineEntries, inlineValue_spelled value,
        inlineEntries_spelledEntries rest]

end

theorem pieces_spelledEntries (attributes : Attributes) :
    pieces (spelledEntries attributes) = pieces attributes := by
  match attributes with
  | [] => rfl
  | (name, value) :: rest =>
      have samePiece : piece name value.spelled = piece name value := by
        cases value with
        | text | number | bool | reference => rfl
        | list items =>
            have sameText := inlineValue_spelled (.list items)
            rw [AttrValue.spelled] at sameText ⊢
            simp [piece, sameText]
        | map entries =>
            cases entries with
            | nil => rfl
            | cons entry entries =>
                have sameInner := pieces_spelledEntries (entry :: entries)
                rw [AttrValue.spelled, spelledEntries.eq_def] at *
                simp [piece, sameInner]
      rw [spelledEntries, pieces, pieces, samePiece, pieces_spelledEntries rest]

theorem paragraphsOf_spelledBlocks (blocks : List Block) :
    paragraphsOf (spelledBlocks blocks) = paragraphsOf blocks := by
  match blocks with
  | [] => rfl
  | { type, labels, attributes, blocks := nested } :: rest =>
      have sameAttributes := pieces_spelledEntries attributes
      have sameNested := paragraphsOf_spelledBlocks nested
      have sameLines : blockLines (Block.spelled { type, labels, attributes, blocks := nested }) =
          blockLines { type, labels, attributes, blocks := nested } := by
        by_cases isEmpty : attributes = [] ∧ nested = []
        · obtain ⟨rfl, rfl⟩ := isEmpty
          rfl
        · have spelledFilled : ¬(spelledEntries attributes = [] ∧ spelledBlocks nested = []) := by
            rw [spelledEntries_eq_nil_iff, spelledBlocks_eq_nil_iff]
            exact isEmpty
          rw [Block.spelled, blockLines_of_filled isEmpty, blockLines_of_filled spelledFilled,
            sameAttributes, sameNested]
      rw [spelledBlocks, paragraphsOf, paragraphsOf, sameLines, paragraphsOf_spelledBlocks rest]

/-- Literal blocks whose types are identifiers have the same text exactly when they are the same
but for numbers that are written alike. -/
theorem render_eq_iff
    {left right : List Block}
    (leftTyped : ∀ block ∈ left, IsTyped block)
    (leftLiteral : ∀ block ∈ left, block.IsLiteral)
    (rightTyped : ∀ block ∈ right, IsTyped block)
    (rightLiteral : ∀ block ∈ right, block.IsLiteral) :
    render left = render right ↔ left.map Block.spelled = right.map Block.spelled := by
  rw [← Block.spelledBlocks_eq_map, ← Block.spelledBlocks_eq_map]
  constructor
  · intro same
    have leftWriting := writing_paragraphsOf left leftTyped leftLiteral
    have rightWriting := writing_paragraphsOf right rightTyped rightLiteral
    have sameLines := text_unique (newline_not_mem_separate leftWriting)
      (newline_not_mem_separate rightWriting) same
    have sameSolid := congrArg solid sameLines
    rw [solid_separate, solid_separate] at sameSolid
    exact (leftWriting.unique rightWriting sameSolid).2
  · intro same
    rw [render, render, ← paragraphsOf_spelledBlocks left, same, paragraphsOf_spelledBlocks right]

/-- A disk of a size, with a tag and a block that is nested in it. -/
def disk : Block where
  type := "disk"
  labels := ["main disk"]
  attributes := [("size", .ofNat 8), ("tags", .map [("Name", .text "$\x7bmain")])]
  blocks := [{ type := "backup" }]

/-- The same disk with the tag before the size. -/
def diskTagFirst : Block :=
  { disk with attributes := disk.attributes.reverse }

theorem render_tells_order_of_attributes :
    (∀ block ∈ [disk, diskTagFirst], IsTyped block ∧ block.IsLiteral) ∧
      render [disk] ≠ render [diskTagFirst] := by
  have nestedTyped : ∀ nested ∈ disk.blocks, IsTyped nested := by
    rw [disk, List.forall_mem_singleton]
    exact .intro (by decide) (by simp)
  have diskTyped : IsTyped disk := .intro (by decide) nestedTyped
  have otherTyped : IsTyped diskTagFirst := .intro (by decide) nestedTyped
  have diskLiteral : disk.IsLiteral := by
    refine (Block.mentionsOnly_iff _).2 ?_
    simp [disk, Attributes.MentionsOnly]
  have otherLiteral : diskTagFirst.IsLiteral := by
    refine (Block.mentionsOnly_iff _).2 ?_
    simp [diskTagFirst, disk, Attributes.MentionsOnly]
  have differ : [disk].map Block.spelled ≠ [diskTagFirst].map Block.spelled := by
    simp [disk, diskTagFirst, Block.spelled, spelledEntries]
  have tells := render_eq_iff (List.forall_mem_singleton.2 diskTyped)
    (List.forall_mem_singleton.2 diskLiteral) (List.forall_mem_singleton.2 otherTyped)
    (List.forall_mem_singleton.2 otherLiteral)
  exact ⟨by simp [diskTyped, otherTyped, diskLiteral, otherLiteral], tells.not.2 differ⟩

end CloudPlan.Terraform.Hcl
