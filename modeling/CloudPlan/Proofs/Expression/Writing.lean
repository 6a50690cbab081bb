import CloudPlan.Expression.Tree

/-!
# Written expressions

How trees are written: the words of the language, the levels of its operators and the
places of parentheses.  Nothing here reads a text.
-/

namespace CloudPlan.Expression

/-! ## Words -/

/-- Spaces, tabs, carriage returns and line feeds, or nothing at all. -/
def IsBlanks (text : List Char) : Prop :=
  ∀ c ∈ text, c ∈ [' ', '\t', '\r', '\n']

/-- At least one digit, and nothing else. -/
def IsDigits (text : List Char) : Prop :=
  text ≠ [] ∧ ∀ c ∈ text, c.isDigit = true

/-- Digits, or digits on either side of a point. -/
def IsNumber (text : List Char) : Prop :=
  IsDigits text ∨
    ∃ whole fraction, IsDigits whole ∧ IsDigits fraction ∧ text = whole ++ '.' :: fraction

/-- A letter or an underscore, and after it letters, digits and underscores. -/
inductive IsIdentifier : List Char → Prop
  | intro {c : Char} {rest : List Char} :
      (c.isAlpha = true ∨ c = '_') →
      (∀ d ∈ rest, d.isAlphanum = true ∨ d = '_') →
      IsIdentifier (c :: rest)

/-- The identifiers that no field path starts with. -/
def keywords : List (List Char) :=
  [['t', 'r', 'u', 'e'], ['f', 'a', 'l', 's', 'e'], ['n', 'u', 'l', 'l']]

/--
A content as it stands between two quotes.  A backslash has to stand before such a quote
and before a backslash, and may stand before any other character.
-/
inductive ContentWrittenAs (quote : Char) : List Char → List Char → Prop
  | nil : ContentWrittenAs quote [] []
  | plain {c : Char} {content text : List Char} :
      c ≠ quote → c ≠ '\\' → ContentWrittenAs quote content text →
      ContentWrittenAs quote (c :: content) (c :: text)
  | escaped {c : Char} {content text : List Char} :
      ContentWrittenAs quote content text →
      ContentWrittenAs quote (c :: content) ('\\' :: c :: text)

/-- How a literal is written. -/
inductive Literal.WrittenAs : Literal → List Char → Prop
  | null : WrittenAs null ['n', 'u', 'l', 'l']
  | true : WrittenAs (bool Bool.true) ['t', 'r', 'u', 'e']
  | false : WrittenAs (bool Bool.false) ['f', 'a', 'l', 's', 'e']
  | number {digits : List Char} : IsNumber digits → WrittenAs (number digits) digits
  | text {quote : Char} {content inside : List Char} :
      (quote = '"' ∨ quote = '\'') → ContentWrittenAs quote content inside →
      WrittenAs (text content) (quote :: (inside ++ [quote]))

/-- The names after the first one of a path: each after a point with blanks around it. -/
inductive PathWrittenAs : List (List Char) → List Char → Prop
  | nil : PathWrittenAs [] []
  | cons {before after name text : List Char} {names : List (List Char)} :
      IsBlanks before → IsBlanks after → IsIdentifier name → PathWrittenAs names text →
      PathWrittenAs (name :: names) (before ++ '.' :: (after ++ (name ++ text)))

/-- How a literal or a field path is written. -/
inductive AtomWrittenAs : Tree → List Char → Prop
  | literal {value : Literal} {text : List Char} :
      value.WrittenAs text → AtomWrittenAs (.literal value) text
  | field {first text : List Char} {names : List (List Char)} :
      IsIdentifier first → first ∉ keywords → PathWrittenAs names text →
      AtomWrittenAs (.field first names) (first ++ text)

/-! ## Operators and parentheses -/

namespace BinaryOp

/-- How loosely an operator holds its operands together. -/
def looseness : BinaryOp → Nat
  | coalesce => 6
  | or => 5
  | and => 4
  | equal | notEqual | less | lessEqual | greater | greaterEqual => 3
  | add | subtract => 2
  | multiply | divide | remainder => 1

/-- The operator compares its operands. -/
def IsComparison (op : BinaryOp) : Prop :=
  op ∈ [equal, notEqual, less, lessEqual, greater, greaterEqual]

instance (op : BinaryOp) : Decidable op.IsComparison :=
  inferInstanceAs (Decidable (op ∈ _))

/-- The loosest operator that a left operand may have without parentheses: one of the
same level, but none after a comparison. -/
def leftBound (op : BinaryOp) : Nat :=
  if op.IsComparison then op.looseness - 1 else op.looseness

end BinaryOp

/-- No operator is looser. -/
def loosest : Nat := 6

/--
How a tree is written where operators up to a looseness may stand without parentheses.
Blanks may stand before every word, and parentheses around every tree.
-/
inductive Tree.WrittenAs : Nat → Tree → List Char → Prop
  | atom {bound : Nat} {before text : List Char} {tree : Tree} :
      IsBlanks before → AtomWrittenAs tree text → WrittenAs bound tree (before ++ text)
  | unary {bound : Nat} {before text : List Char} {op : UnaryOp} {operand : Tree} :
      IsBlanks before → WrittenAs 0 operand text →
      WrittenAs bound (unary op operand) (before ++ op.symbol :: text)
  | parenthesized {bound : Nat} {before text after : List Char} {tree : Tree} :
      IsBlanks before → WrittenAs loosest tree text → IsBlanks after →
      WrittenAs bound tree (before ++ '(' :: (text ++ (after ++ [')'])))
  | binary {bound : Nat} {before leftText rightText : List Char} {op : BinaryOp}
      {left right : Tree} :
      op.looseness ≤ bound → WrittenAs op.leftBound left leftText → IsBlanks before →
      WrittenAs (op.looseness - 1) right rightText →
      WrittenAs bound (binary op left right)
        (leftText ++ (before ++ (op.symbol.toList ++ rightText)))

/-- A text spells a tree when it writes the tree, with blanks behind it or none. -/
def Spells (text : List Char) (tree : Tree) : Prop :=
  ∃ written after, tree.WrittenAs loosest written ∧ IsBlanks after ∧ text = written ++ after

end CloudPlan.Expression
