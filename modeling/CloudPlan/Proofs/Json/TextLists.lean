import CloudPlan.Json.Decode
import Mathlib.Data.Option.Basic

/-!
# Lists of texts in JSON documents

A document is read as a list of texts exactly when its value is that list: in both cases
the tree of the document lists texts and nothing else.
-/

namespace CloudPlan.Json

/-- The tree of a list of texts. -/
def treeOfTexts (names : List String) : Tree :=
  .list (names.map fun name => .text (some name))

theorem view_object_nested
    (members : List (Option String × Tree))
    (room : Nat) :
    (∃ named, Source.view (Nested.mk (.object members) room) = .object named) ∨
      Source.view (Nested.mk (.object members) room) = .unreadable := by
  simp only [Source.view]
  split
  next => exact Or.inr rfl
  next named _ => exact Or.inl ⟨named, rfl⟩
  next => exact Or.inr rfl

theorem text?_nested_eq_some_iff
    (tree : Tree)
    (room : Nat)
    (name : String) :
    text? (Nested.mk tree room) = some name ↔ tree = .text (some name) := by
  cases tree with
  | null => simp [text?, Source.view]
  | bool value => simp [text?, Source.view]
  | number value => cases value <;> simp [text?, Source.view]
  | text value => cases value <;> simp [text?, Source.view]
  | list items => by_cases full : room = 0 <;> simp [text?, Source.view, full]
  | object members =>
      rcases view_object_nested members room with ⟨named, isObject⟩ | unreadable
      · simp [text?, isObject]
      · simp [text?, unreadable]

theorem value?_eq_text_iff
    (tree : Tree)
    (room : Nat)
    (name : String) :
    tree.value? room = some (.text name) ↔ tree = .text (some name) := by
  cases tree with
  | null => simp [Tree.value?]
  | bool value => simp [Tree.value?]
  | number value => cases value <;> simp [Tree.value?]
  | text value => cases value <;> simp [Tree.value?]
  | list items => simp [Tree.value?, Option.bind_eq_some_iff]
  | object members => simp [Tree.value?, Option.bind_eq_some_iff]

/-- Where one item is read as a value exactly when it is written for it, so are lists of them. -/
theorem mapM_eq_some_map_iff
    {α β γ : Type}
    {read : α → Option β}
    (value : γ → β)
    (write : γ → α)
    (reads : ∀ item source, read item = some (value source) ↔ item = write source)
    (items : List α)
    (sources : List γ) :
    items.mapM read = some (sources.map value) ↔ items = sources.map write := by
  induction items generalizing sources with
  | nil => cases sources <;> simp
  | cons first rest inductionHypothesis =>
      cases sources with
      | nil => simp [List.mapM_cons, Option.bind_eq_some_iff]
      | cons source others =>
          simp [List.mapM_cons, Option.bind_eq_some_iff, reads, inductionHypothesis]

/-- Where all items are read, what an item is read as stands at its place. -/
theorem getElem?_of_mapM_eq_some
    {α β : Type}
    {read : α → Option β}
    {items : List α}
    {results : List β}
    (reads : items.mapM read = some results)
    {place : Nat}
    {item : α}
    (isItem : items[place]? = some item) :
    ∃ result, read item = some result ∧ results[place]? = some result := by
  induction items generalizing place results with
  | nil => contradiction
  | cons first rest inductionHypothesis =>
      rw [List.mapM_cons] at reads
      obtain ⟨result, isFirst, reads⟩ := Option.bind_eq_some_iff.1 reads
      obtain ⟨others, areOthers, reads⟩ := Option.bind_eq_some_iff.1 reads
      obtain rfl := Option.some.inj reads
      cases place with
      | zero =>
          obtain rfl := Option.some.inj isItem
          exact ⟨result, isFirst, rfl⟩
      | succ place => exact inductionHypothesis areOthers isItem

/-- The items of a list are seen as they are written. -/
theorem view_list_nested
    (items : List Tree)
    (room : Nat) :
    Source.view (Nested.mk (.list items) (room + 1)) = .list (items.map (Nested.mk · room)) :=
  rfl

/-- An item of a list is read as what is found at its place. -/
theorem getElem?_of_list?
    {α : Type}
    {read : Nested → Option α}
    {items : List Tree}
    {room : Nat}
    {results : List α}
    (reads : list? read (Nested.mk (.list items) room) = some results)
    {place : Nat}
    {item : Tree}
    (isItem : items[place]? = some item) :
    ∃ result, read (Nested.mk item (room - 1)) = some result ∧ results[place]? = some result := by
  cases room with
  | zero => contradiction
  | succ room =>
      rw [list?, view_list_nested] at reads
      refine getElem?_of_mapM_eq_some reads ?_
      rw [List.getElem?_map, isItem]
      rfl

/-- Read as a list of texts, a tree gives the texts that it lists. -/
theorem list?_text?_eq_some_iff
    {tree : Tree}
    {room : Nat}
    {names : List String} :
    list? text? (Nested.mk tree (room + 1)) = some names ↔ tree = treeOfTexts names := by
  have items := mapM_eq_some_map_iff id (fun name => .text (some name))
    fun tree => text?_nested_eq_some_iff tree room
  cases tree with
  | list trees => simpa [list?, Source.view, treeOfTexts, Function.comp_def] using items trees names
  | null => simp [list?, Source.view, treeOfTexts]
  | bool value => simp [list?, Source.view, treeOfTexts]
  | number value => cases value <;> simp [list?, Source.view, treeOfTexts]
  | text value => cases value <;> simp [list?, Source.view, treeOfTexts]
  | object members =>
      rcases view_object_nested members (room + 1) with ⟨named, isObject⟩ | unreadable
      · simp [list?, isObject, treeOfTexts]
      · simp [list?, unreadable, treeOfTexts]

theorem items?_eq_mapM
    (room : Nat)
    (trees : List Tree) :
    Tree.items? room trees = trees.mapM (Tree.value? room) := by
  induction trees with
  | nil => rfl
  | cons first rest inductionHypothesis =>
      rw [Tree.items?, List.mapM_cons, inductionHypothesis]

/-- The value of a tree is a list of texts exactly when the tree is. -/
theorem value?_eq_ofTexts_iff
    {tree : Tree}
    {room : Nat}
    {names : List String} :
    tree.value? (room + 1) = some (.ofTexts names) ↔ tree = treeOfTexts names := by
  have items := mapM_eq_some_map_iff Value.text (fun name => .text (some name))
    fun tree => value?_eq_text_iff tree room
  cases tree with
  | list trees =>
      have hasRoom : (guard (0 < room + 1) : Option Unit) = some () := if_pos (Nat.succ_pos room)
      rw [Tree.value?, hasRoom]
      simpa [Value.ofTexts, treeOfTexts, items?_eq_mapM, Option.bind_eq_some_iff]
        using items trees names
  | null => simp [Tree.value?, Value.ofTexts, treeOfTexts]
  | bool value => simp [Tree.value?, Value.ofTexts, treeOfTexts]
  | number value => cases value <;> simp [Tree.value?, Value.ofTexts, treeOfTexts]
  | text value => cases value <;> simp [Tree.value?, Value.ofTexts, treeOfTexts]
  | object members => simp [Tree.value?, Value.ofTexts, treeOfTexts, Option.bind_eq_some_iff]

end CloudPlan.Json
