import CloudPlan.Code.Block
import CloudPlan.Json.Printer

/-!
# HCL

Blocks as HCL text.  Attributes on neighbouring lines have their equals signs below
each other; values that take several lines stand alone between empty lines.
-/

namespace CloudPlan.Terraform.Hcl

open Code

/-! ## Literals -/

/-- How a character stands in a literal, before the given one if there is one. -/
def escape (c : Char) (next : Option Char) : List Char :=
  match c with
  | '\\' => ['\\', '\\']
  | '"' => ['\\', '"']
  | '\n' => ['\\', 'n']
  | '\r' => ['\\', 'r']
  | '\t' => ['\\', 't']
  | _ => if (c = '$' ∨ c = '%') ∧ next = some '{' then [c, c] else [c]

/-- Characters as they stand in a literal. -/
def escapeAll : List Char → List Char
  | [] => []
  | c :: rest => escape c rest.head? ++ escapeAll rest

/-- A text between double quotes, in which nothing but text can stand. -/
def quote (text : String) : String :=
  String.ofList ('"' :: escapeAll text.toList ++ ['"'])

/-! ## Keys -/

/-- A character with which an identifier may begin. -/
def isInitial (c : Char) : Bool :=
  c.isAlpha || c == '_'

/-- A character with which an identifier may go on. -/
def isMedial (c : Char) : Bool :=
  c.isAlphanum || c == '_' || c == '-'

/-- A text is an identifier. -/
def isIdentifier (text : String) : Bool :=
  match text.toList with
  | [] => false
  | c :: rest => isInitial c && rest.all isMedial

/-- A key: as it is when it is an identifier, and else quoted. -/
def key (text : String) : String :=
  if isIdentifier text then text else quote text

/-! ## Values -/

/-- An opening brace. -/
def openBrace : String := "\x7b"

/-- A closing brace. -/
def closeBrace : String := "\x7d"

/-- Entries on one line. -/
def inlineMap (entries : List String) : String :=
  match entries with
  | [] => openBrace ++ closeBrace
  | _ => openBrace ++ " " ++ ", ".intercalate entries ++ " " ++ closeBrace

mutual

/-- A value on one line. -/
def inlineValue : AttrValue → String
  | .text value => quote value
  | .number value => value.write
  | .bool value => toString value
  | .list items => "[" ++ ", ".intercalate (inlineItems items) ++ "]"
  | .map entries => inlineMap (inlineEntries entries)
  | .reference target => target.text

/-- Values, each on one line. -/
def inlineItems : List AttrValue → List String
  | [] => []
  | item :: rest => inlineValue item :: inlineItems rest

/-- Keys with their values, each on one line. -/
def inlineEntries : List (String × AttrValue) → List String
  | [] => []
  | (name, value) :: rest => (key name ++ " = " ++ inlineValue value) :: inlineEntries rest

end

/-! ## Lines -/

/-- Lines as they stand inside a block; an empty line stays empty. -/
def indent (lines : List String) : List String :=
  lines.map fun line => if line = "" then "" else "  " ++ line

/-- Lines between an opening line and a closing brace. -/
def enclose (opening : String) (lines : List String) : List String :=
  (opening ++ " " ++ openBrace) :: indent lines ++ [closeBrace]

/-- Paragraphs with an empty line between each two. -/
def separate (paragraphs : List (List String)) : List String :=
  [""].intercalate paragraphs

/-- An attribute: a key with a value on the same line, or several lines. -/
inductive Piece where
  | line (key value : String)
  | paragraph (lines : List String)

/-- How far the equals signs of keys stand from the margin: the most bytes that a key has. -/
def alignment (pairs : List (String × String)) : Nat :=
  (pairs.map (·.1.utf8ByteSize)).foldl max 0

/-- A key with as many spaces after it as a number of characters demands. -/
def pad (width : Nat) (key : String) : String :=
  key ++ String.ofList (List.replicate (width - key.length) ' ')

/-- Keys and values on neighbouring lines. -/
def align (pairs : List (String × String)) : List String :=
  pairs.map fun pair => pad (alignment pairs) pair.1 ++ " = " ++ pair.2

/-- The paragraph of some keys and values, if there are any. -/
def alignAll (pairs : List (String × String)) : List (List String) :=
  if pairs.isEmpty then [] else [align pairs]

/-- The paragraphs of pieces, after the given keys and values (the last one first). -/
def paragraphs (pairs : List (String × String)) : List Piece → List (List String)
  | [] => alignAll pairs.reverse
  | .line key value :: rest => paragraphs ((key, value) :: pairs) rest
  | .paragraph lines :: rest => alignAll pairs.reverse ++ lines :: paragraphs [] rest

mutual

/-- A key with its value. -/
def piece (name : String) : AttrValue → Piece
  | .map (entry :: rest) =>
    .paragraph (enclose (key name ++ " =") (separate (paragraphs [] (pieces (entry :: rest)))))
  | value => .line (key name) (inlineValue value)

/-- Keys with their values. -/
def pieces : List (String × AttrValue) → List Piece
  | [] => []
  | (name, value) :: rest => piece name value :: pieces rest

end

/-- The type of a block with its labels. -/
def header (block : Block) : String :=
  " ".intercalate (block.type :: block.labels.map quote)

mutual

/-- The lines of a block. -/
def blockLines (block : Block) : List String :=
  match block with
  | { type, labels, attributes := [], blocks := [] } =>
    [header { type, labels } ++ " " ++ openBrace ++ closeBrace]
  | { type, labels, attributes, blocks } =>
    enclose (header { type, labels })
      (separate (paragraphs [] (pieces attributes) ++ paragraphsOf blocks))

/-- The paragraphs of blocks. -/
def paragraphsOf : List Block → List (List String)
  | [] => []
  | block :: rest => blockLines block :: paragraphsOf rest

end

/-- The text of lines. -/
def text (lines : List String) : String :=
  String.join (lines.map (· ++ "\n"))

/-- The text of blocks. -/
def render (blocks : List Block) : String :=
  text (separate (paragraphsOf blocks))

end CloudPlan.Terraform.Hcl
