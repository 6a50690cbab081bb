import CloudPlan.Text.Utf8

/-!
# Glyphs

The characters of a YAML text with their places.  Every way of ending a line but the
Unicode separators is one line feed.
-/

namespace CloudPlan.Yaml

/-- A character with its place. -/
structure Glyph where
  /-- The character. -/
  char : Char
  /-- The number of lines before it. -/
  line : Nat
  /-- The number of characters before it in its line. -/
  column : Nat
  /-- The number of characters before it in the text. -/
  index : Nat

/-- A character that may stand in a text. -/
def isAllowed (c : Char) : Bool :=
  let code := c.toNat
  code == 0x09 || code == 0x0A || code == 0x0D || (0x20 ≤ code && code ≤ 0x7E) ||
    code == 0x85 || (0xA0 ≤ code && code ≤ 0xD7FF) || (0xE000 ≤ code && code ≤ 0xFFFD) ||
    0x10000 ≤ code

/-- The separators of lines and of paragraphs. -/
def isSeparator (c : Char) : Bool :=
  c.toNat == 0x2028 || c.toNat == 0x2029

/-- A character that ends a line, once ways of ending lines are made one. -/
def isBreak (c : Char) : Bool :=
  c == '\n' || isSeparator c

/-- A space or a tab. -/
def isSpace (c : Char) : Bool :=
  c == ' ' || c == '\t'

/-- A character that is no part of a word. -/
def isGap (c : Char) : Bool :=
  isSpace c || isBreak c

/-- The glyphs of characters from a place on. -/
def glyphsFrom (line column index : Nat) : List Char → List Glyph
  | [] => []
  | '\r' :: '\n' :: rest => ⟨'\n', line, column, index⟩ :: glyphsFrom (line + 1) 0 (index + 2) rest
  | c :: rest =>
    if c = '\r' ∨ c = '\n' ∨ c.toNat = 0x85 then
      ⟨'\n', line, column, index⟩ :: glyphsFrom (line + 1) 0 (index + 1) rest
    else if isSeparator c then
      ⟨c, line, column, index⟩ :: glyphsFrom (line + 1) 0 (index + 1) rest
    else
      ⟨c, line, column, index⟩ :: glyphsFrom line (column + 1) (index + 1) rest

/-- The glyphs of a text, if it holds only characters that may stand in one. -/
def glyphs? (text : String) : Option (List Glyph) :=
  let chars := match text.toList with
    | '\ufeff' :: rest => rest
    | chars => chars
  if chars.all isAllowed then some (glyphsFrom 0 0 0 chars) else none

/-- Glyphs begin with a gap, or there are none. -/
def startsWithGap : List Glyph → Bool
  | [] => true
  | glyph :: _ => isGap glyph.char

/-- The character with which glyphs begin is the given one. -/
def startsWith (c : Char) : List Glyph → Bool
  | [] => false
  | glyph :: _ => glyph.char == c

/-- Glyphs begin with a line that bounds a document: three dashes or three dots, and a gap. -/
def startsWithBound (mark : Char) : List Glyph → Bool
  | first :: second :: third :: rest =>
    first.column == 0 && first.char == mark && second.char == mark && third.char == mark &&
      startsWithGap rest
  | _ => false

/-- Glyphs begin with either line that bounds a document. -/
def startsWithAnyBound (glyphs : List Glyph) : Bool :=
  startsWithBound '-' glyphs || startsWithBound '.' glyphs

end CloudPlan.Yaml
