import CloudPlan.Text.Digits
import CloudPlan.Yaml.Glyph

/-!
# Scalars as written

Reading plain, quoted and block scalars.  Lines are folded: one line break between
words is a space, and of several the first one is dropped.
-/

namespace CloudPlan.Yaml

/-- What stands between two words of a scalar. -/
structure Gap where
  /-- A line ends in the gap. -/
  isFolded : Bool := false
  /-- The spaces before the end of the line, the last one first. -/
  spaces : List Char := []
  /-- The first line break, unless it is escaped. -/
  first : Option Char := none
  /-- The further line breaks, the last one first. -/
  more : List Char := []

namespace Gap

/-- Nothing stands between the words. -/
def isEmpty (gap : Gap) : Bool :=
  !gap.isFolded && gap.spaces.isEmpty

/-- The gap with one more space; spaces at the beginning of a line do not count. -/
def addSpace (gap : Gap) (c : Char) : Gap :=
  if gap.isFolded then gap else { gap with spaces := c :: gap.spaces }

/-- The gap with one more line break. -/
def addBreak (gap : Gap) (c : Char) : Gap :=
  if gap.isFolded then
    { gap with more := c :: gap.more }
  else
    { isFolded := true, first := some c }

/-- The gap with one more character. -/
def add (gap : Gap) (c : Char) : Gap :=
  if isBreak c then gap.addBreak c else gap.addSpace c

/-- What a gap stands for. -/
def chars (gap : Gap) : List Char :=
  if gap.isFolded then
    match gap.first with
    | some '\n' => if gap.more.isEmpty then [' '] else gap.more.reverse
    | first => first.toList ++ gap.more.reverse
  else
    gap.spaces.reverse

end Gap

/-! ## Plain scalars -/

/-- A plain scalar and what follows it. -/
structure Plain where
  /-- The text. -/
  text : List Char
  /-- A line has ended since the last word. -/
  isFolded : Bool
  /-- What follows. -/
  rest : List Glyph

/-- The characters that end a plain scalar inside brackets. -/
def flowBounds : List Char := [',', '[', ']', '{', '}']

/-- After a gap a plain scalar does not go on with these glyphs. -/
def endsAfterGap (indent : Int) (inFlow : Bool) (glyph : Glyph) (rest : List Glyph) : Bool :=
  (!inFlow && (glyph.column : Int) < indent) || startsWithAnyBound (glyph :: rest) ||
    glyph.char == '#'

/-- A word of a plain scalar does not go on with this character before these glyphs. -/
def endsInWord (inFlow : Bool) (c : Char) (rest : List Glyph) : Bool :=
  (c == ':' && startsWithGap rest) || (inFlow && flowBounds.contains c)

/-- A colon stands where neither a word nor a value can go on. -/
def isStrayColon (inFlow : Bool) (c : Char) (rest : List Glyph) : Bool :=
  inFlow && c == ':' && ('?' :: flowBounds).any (startsWith · rest)

/--
The plain scalar that glyphs begin with, at an indentation, after text (the last
character first) and a gap.
-/
def plain (indent : Int) (inFlow : Bool) (text : List Char) (gap : Gap) :
    List Glyph → Option Plain
  | [] => some ⟨text.reverse, gap.isFolded, []⟩
  | glyph :: rest =>
    if isGap glyph.char then
      if gap.isFolded ∧ (glyph.column : Int) < indent ∧ glyph.char = '\t' then
        none
      else
        plain indent inFlow text (gap.add glyph.char) rest
    else if !gap.isEmpty && endsAfterGap indent inFlow glyph rest then
      some ⟨text.reverse, gap.isFolded, glyph :: rest⟩
    else if isStrayColon inFlow glyph.char rest then
      none
    else if endsInWord inFlow glyph.char rest then
      some ⟨text.reverse, gap.isFolded, glyph :: rest⟩
    else
      plain indent inFlow (glyph.char :: (gap.chars.reverse ++ text)) {} rest

/-! ## Quoted scalars -/

/-- The characters that a letter after a backslash stands for. -/
def escapes : List (Char × Char) :=
  [('0', '\x00'), ('a', '\x07'), ('b', '\x08'), ('t', '\t'), ('\t', '\t'), ('n', '\n'),
    ('v', '\x0b'), ('f', '\x0c'), ('r', '\r'), ('e', '\x1b'), (' ', ' '), ('"', '"'),
    ('/', '/'), ('\\', '\\'), ('N', '\u0085'), ('_', '\u00a0'), ('L', '\u2028'),
    ('P', '\u2029')]

/-- How many hexadecimal digits follow a letter after a backslash. -/
def escapeWidths : List (Char × Nat) := [('x', 2), ('u', 4), ('U', 8)]

/-- The character that an escape sequence stands for, and what follows it. -/
def escaped? : List Glyph → Option (Char × List Glyph)
  | [] => none
  | glyph :: rest =>
    match escapes.lookup glyph.char, escapeWidths.lookup glyph.char with
    | some c, _ => some (c, rest)
    | none, some width => do
      guard (width ≤ rest.length)
      let code ← Text.naturalIn? 16 ((rest.take width).map (·.char))
      guard code.isValidChar
      return (Char.ofNat code, rest.drop width)
    | none, none => none

/-- The text between quotation marks, and what follows it. -/
abbrev Quotation := List Char × List Glyph

/-- The quotation with single marks that glyphs begin with, after text and a gap. -/
def single (text : List Char) (gap : Gap) : List Glyph → Option Quotation
  | [] => none
  | glyph :: rest =>
    if isGap glyph.char then
      single text (gap.add glyph.char) rest
    else if startsWithAnyBound (glyph :: rest) then
      none
    else
      let before := gap.chars.reverse ++ text
      if glyph.char = '\'' then
        match rest with
        | next :: more =>
          if next.char = '\'' then single ('\'' :: before) {} more
          else some (before.reverse, rest)
        | [] => some (before.reverse, [])
      else
        single (glyph.char :: before) {} rest

/-- The quotation with double marks that glyphs begin with, in at most `fuel` steps. -/
def double (fuel : Nat) (text : List Char) (gap : Gap) (glyphs : List Glyph) :
    Option Quotation :=
  match fuel, glyphs with
  | 0, _ => none
  | _, [] => none
  | fuel + 1, glyph :: rest =>
    if isGap glyph.char then
      double fuel text (gap.add glyph.char) rest
    else if startsWithAnyBound (glyph :: rest) then
      none
    else
      let before := gap.chars.reverse ++ text
      if glyph.char = '"' then
        some (before.reverse, rest)
      else if glyph.char = '\\' then
        match rest with
        | [] => none
        | next :: more =>
          if isBreak next.char then
            double fuel before { isFolded := true } more
          else
            (escaped? rest).bind fun found => double fuel (found.1 :: before) {} found.2
      else
        double fuel (glyph.char :: before) {} rest

/-! ## Block scalars -/

/-- What becomes of the line breaks at the end of a block scalar. -/
inductive Chomping where
  | strip
  | clip
  | keep
deriving DecidableEq

/-- The head of a block scalar. -/
structure BlockHead where
  /-- What becomes of the line breaks at the end. -/
  chomping : Chomping := .clip
  /-- The indentation relative to what the scalar stands in, if it is given. -/
  indentation : Option Nat := none
  /-- What follows the indicators. -/
  rest : List Glyph

/-- The chomping that a character indicates. -/
def chomping? : Char → Option Chomping
  | '-' => some .strip
  | '+' => some .keep
  | _ => none

/-- The indicators of a block scalar, each at most once; an indentation is not zero. -/
def blockHead? (glyphs : List Glyph) : Option BlockHead :=
  let chomping (head : BlockHead) : BlockHead :=
    match head.rest with
    | [] => head
    | glyph :: rest =>
      match chomping? glyph.char with
      | some chomping => { head with chomping, rest }
      | none => head
  let indentation (head : BlockHead) : Option BlockHead :=
    match head.rest with
    | [] => some head
    | glyph :: rest =>
      if glyph.char = '0' then none
      else if glyph.char.isDigit then
        some { head with indentation := Text.digitIn? 10 glyph.char, rest }
      else some head
  match glyphs with
  | [] => some { rest := [] }
  | glyph :: _ =>
    if (chomping? glyph.char).isSome then
      indentation (chomping { rest := glyphs })
    else
      (indentation { rest := glyphs }).map fun head =>
        if head.indentation.isSome then chomping head else head

/-- What follows the line of a block head, which may hold nothing more but a comment. -/
def afterBlockHead? (glyphs : List Glyph) : Option (List Glyph) :=
  match glyphs.dropWhile fun glyph => isSpace glyph.char with
  | [] => some []
  | glyph :: rest =>
    if isBreak glyph.char then
      some rest
    else if glyph.char = '#' then
      some ((rest.dropWhile fun glyph => !isBreak glyph.char).drop 1)
    else
      none

/-- The empty lines before the next line of a block scalar. -/
structure EmptyLines where
  /-- The greatest column that spaces lead to. -/
  column : Nat
  /-- The line breaks. -/
  breaks : List Char
  /-- What follows. -/
  rest : List Glyph

/--
The empty lines that glyphs begin with, up to an indentation if there is one.  A tab
cannot indent.
-/
def emptyLines (indent : Option Nat) (column : Nat) (breaks : List Char) :
    List Glyph → Option EmptyLines
  | [] => some ⟨column, breaks.reverse, []⟩
  | glyph :: rest =>
    let isIndenting := indent.all (glyph.column < ·)
    let reached := max column glyph.column
    if isIndenting && glyph.char == ' ' then
      emptyLines indent column breaks rest
    else if isIndenting && glyph.char == '\t' then
      none
    else if isBreak glyph.char then
      emptyLines indent reached (glyph.char :: breaks) rest
    else
      some ⟨reached, breaks.reverse, glyph :: rest⟩

/-- How far the lines of a block scalar have been read. -/
structure BlockText where
  /-- The text, the last character first. -/
  text : List Char := []
  /-- The line break after the last line. -/
  lead : List Char := []
  /-- The line breaks of empty lines after that. -/
  breaks : List Char
  /-- The last line begins with a space. -/
  isSpaced : Bool := false

/-- The text with one more line; lines are folded unless either begins with a space. -/
def BlockText.addLine (read : BlockText) (isLiteral : Bool) (line : List Char) : List Char :=
  let isSpaced := (line.head?.map isSpace).getD false
  let joint :=
    if !isLiteral && read.lead == ['\n'] && !read.isSpaced && !isSpaced then
      if read.breaks.isEmpty then [' '] else []
    else
      read.lead
  line.reverse ++ read.breaks.reverse ++ joint.reverse ++ read.text

/-- The lines of a block scalar at an indentation, at most `fuel` of them. -/
def blockLines (isLiteral : Bool) (indent : Nat) (fuel : Nat) (read : BlockText)
    (glyphs : List Glyph) : Option (BlockText × List Glyph) :=
  match fuel, glyphs with
  | 0, _ => some (read, glyphs)
  | _, [] => some (read, [])
  | fuel + 1, glyph :: rest =>
    if glyph.column = indent then do
      let line := ((glyph :: rest).takeWhile fun glyph => !isBreak glyph.char).map (·.char)
      let after := (glyph :: rest).dropWhile fun glyph => !isBreak glyph.char
      let empty ← emptyLines (some indent) 0 [] (after.drop 1)
      blockLines isLiteral indent fuel
        { text := read.addLine isLiteral line
          lead := (after.take 1).map (·.char)
          breaks := empty.breaks
          isSpaced := (line.head?.map isSpace).getD false }
        empty.rest
    else
      some (read, glyphs)

/-- The block scalar after its indicator, in a block of the given indentation. -/
def block (isLiteral : Bool) (parent : Int) (glyphs : List Glyph) : Option Quotation := do
  let head ← blockHead? glyphs
  let below ← afterBlockHead? head.rest
  let wanted := head.indentation.map fun more => (max parent 0).toNat + more
  let empty ← emptyLines wanted 0 [] below
  let indent := wanted.getD (max empty.column (max (parent + 1).toNat 1))
  let (read, rest) ←
    blockLines isLiteral indent glyphs.length { breaks := empty.breaks } empty.rest
  let tail := match head.chomping with
    | .strip => []
    | .clip => read.lead
    | .keep => read.lead ++ read.breaks
  return (read.text.reverse ++ tail, rest)

end CloudPlan.Yaml
