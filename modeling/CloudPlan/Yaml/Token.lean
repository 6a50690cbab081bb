import CloudPlan.Yaml.Scalar

/-!
# Tokens

The tokens of a YAML text.  Indentation opens and closes block collections, and a
value indicator makes a key of what stands before it in its line.
-/

namespace CloudPlan.Yaml

/-- A token. -/
inductive Token where
  | documentStart
  | documentEnd
  | blockSequenceStart
  | blockMappingStart
  | blockEnd
  | flowSequenceStart
  | flowSequenceEnd
  | flowMappingStart
  | flowMappingEnd
  | blockEntry
  | flowEntry
  | key
  | value
  | alias (name : String)
  | anchor (name : String)
  | tag (name : String)
  | scalar (isPlain : Bool) (text : String)
deriving DecidableEq

/-- A place where a key may have begun. -/
structure PossibleKey where
  /-- The number of tokens before it. -/
  position : Nat
  /-- There must be a key, for nothing else may stand at this indentation. -/
  isRequired : Bool
  /-- Its first glyph. -/
  start : Glyph

/-- How far a text has been read. -/
structure Scan where
  /-- What follows. -/
  rest : List Glyph
  /-- The tokens, the last one first. -/
  tokens : List Token := []
  /-- The indentation of the innermost block collection. -/
  indent : Int := -1
  /-- The indentations of the block collections around it. -/
  indents : List Int := []
  /-- The place where a key may have begun, for every open bracket and for the block around. -/
  keys : List (Option PossibleKey) := [none]
  /-- A key may begin here. -/
  allowsKey : Bool := true

namespace Scan

/-- The text is inside brackets. -/
def inFlow (scan : Scan) : Bool :=
  1 < scan.keys.length

/-- The scan with one more token. -/
def emit (scan : Scan) (token : Token) : Scan :=
  { scan with tokens := token :: scan.tokens }

/-- The scan with a token put after so many others. -/
def emitAt (scan : Scan) (position : Nat) (token : Token) : Scan :=
  { scan with tokens := scan.tokens.insertIdx (scan.tokens.length - position) token }

/-- Skips what separates tokens: spaces, comments and line breaks. -/
def skip (inFlow allowsKey inComment : Bool) : List Glyph → List Glyph × Bool
  | [] => ([], allowsKey)
  | glyph :: rest =>
    if isBreak glyph.char then
      skip inFlow (allowsKey || !inFlow) false rest
    else if inComment then
      skip inFlow allowsKey true rest
    else if glyph.char = ' ' ∨ (glyph.char = '\t' ∧ (inFlow || !allowsKey)) then
      skip inFlow allowsKey false rest
    else if glyph.char = '#' then
      skip inFlow allowsKey true rest
    else
      (glyph :: rest, allowsKey)

/-- A key may be as many characters long as this. -/
def longestKey : Nat := 1024

/-- What has begun at a place can no longer become a key at a glyph. -/
def isStale (key : PossibleKey) (glyph : Glyph) : Bool :=
  key.start.line < glyph.line || key.start.index + longestKey < glyph.index

/-- Gives up a place where a key may have begun, unless there must be one. -/
def giveUp? (key : Option PossibleKey) : Option (Option PossibleKey) :=
  if key.any (·.isRequired) then none else some none

/-- Gives up the places that are stale at the next glyph. -/
def dropStale? (scan : Scan) : Option Scan := do
  match scan.rest with
  | [] => return scan
  | glyph :: _ =>
    let keys ← scan.keys.mapM fun key =>
      if key.any (isStale · glyph) then giveUp? key else some key
    return { scan with keys }

/-- Gives up the innermost place. -/
def dropKey? (scan : Scan) : Option Scan := do
  match scan.keys with
  | [] => return scan
  | key :: others => return { scan with keys := (← giveUp? key) :: others }

/-- Notes that a key may begin at the next glyph. -/
def noteKey? (scan : Scan) : Option Scan := do
  match scan.rest with
  | [] => return scan
  | glyph :: _ =>
    if scan.allowsKey then
      let dropped ← scan.dropKey?
      let key : PossibleKey :=
        { position := scan.tokens.length
          isRequired := !scan.inFlow && scan.indent == glyph.column
          start := glyph }
      return { dropped with keys := some key :: dropped.keys.drop 1 }
    else
      return scan

/-- Closes the block collections that are indented more than so far. -/
def unrollTo (column : Int) : List Int → Int → List Token → Int × List Int × List Token
  | [], indent, tokens => (indent, [], tokens)
  | outer :: others, indent, tokens =>
    if column < indent then
      unrollTo column others outer (.blockEnd :: tokens)
    else
      (indent, outer :: others, tokens)

/-- Closes the block collections that are indented more than so far, outside brackets. -/
def unroll (scan : Scan) (column : Int) : Scan :=
  if scan.inFlow then
    scan
  else
    let (indent, indents, tokens) := unrollTo column scan.indents scan.indent scan.tokens
    { scan with indent, indents, tokens }

/-- Opens a block collection at a position, if it is indented more than the last one. -/
def roll (scan : Scan) (column : Nat) (position : Nat) (token : Token) : Scan :=
  if scan.inFlow ∨ (column : Int) ≤ scan.indent then
    scan
  else
    { scan.emitAt position token with indent := column, indents := scan.indent :: scan.indents }

/-- Opens a block collection at a glyph; that is possible only where a key may begin. -/
def rollHere? (scan : Scan) (glyph : Glyph) (token : Token) : Option Scan := do
  if scan.inFlow then
    return scan
  else
    guard scan.allowsKey
    return scan.roll glyph.column scan.tokens.length token

/-- A line that bounds a document. -/
def bound? (scan : Scan) (token : Token) (rest : List Glyph) : Option Scan := do
  let dropped ← (scan.unroll (-1)).dropKey?
  return { dropped.emit token with rest := rest.drop 2, allowsKey := false }

/-- An opening bracket. -/
def open? (scan : Scan) (token : Token) (rest : List Glyph) : Option Scan := do
  let noted ← scan.noteKey?
  return { noted.emit token with rest, keys := none :: noted.keys, allowsKey := true }

/-- A closing bracket. -/
def close? (scan : Scan) (token : Token) (rest : List Glyph) : Option Scan := do
  let dropped ← scan.dropKey?
  let keys := if dropped.inFlow then dropped.keys.drop 1 else dropped.keys
  return { dropped.emit token with rest, keys, allowsKey := false }

/-- An indicator after which a key may begin. -/
def indicator? (scan : Scan) (token : Token) (allowsKey : Bool) (rest : List Glyph) :
    Option Scan := do
  let dropped ← scan.dropKey?
  return { dropped.emit token with rest, allowsKey }

/-- A value indicator. -/
def value? (scan : Scan) (glyph : Glyph) (rest : List Glyph) : Option Scan := do
  match scan.keys with
  | some key :: others =>
    let opened :=
      (scan.emitAt key.position .key).roll key.start.column key.position .blockMappingStart
    return { opened.emit .value with rest, keys := none :: others, allowsKey := false }
  | _ =>
    let opened ← scan.rollHere? glyph .blockMappingStart
    return { opened.emit .value with rest, allowsKey := !scan.inFlow }

/-- A character of a name. -/
def isNameChar (c : Char) : Bool :=
  c.isAlphanum || c == '_' || c == '-'

/-- The characters that may follow a name directly. -/
def nameBounds : List Char := ['?', ':', ',', ']', '}', '%', '@', '\x60']

/-- The name of an anchor, and what follows it. -/
def name? (glyphs : List Glyph) : Option (String × List Glyph) := do
  let name := (glyphs.takeWhile fun glyph => isNameChar glyph.char).map (·.char)
  let rest := glyphs.dropWhile fun glyph => isNameChar glyph.char
  guard (name ≠ [] ∧ (startsWithGap rest ∨ nameBounds.any (startsWith · rest)))
  return (String.ofList name, rest)

/-- The name of a tag, and what follows it. -/
def tag? (inFlow : Bool) (glyphs : List Glyph) : Option (String × List Glyph) := do
  let isTagChar (c : Char) : Bool := !isGap c && !(inFlow && flowBounds.contains c)
  let name := (glyphs.takeWhile fun glyph => isTagChar glyph.char).map (·.char)
  let rest := glyphs.dropWhile fun glyph => isTagChar glyph.char
  guard (startsWithGap rest ∨ (inFlow ∧ startsWith ',' rest))
  return (String.ofList name, rest)

/-- Something that may be a key, or the beginning of one. -/
def keyPart? (scan : Scan) (read : List Glyph → Option (Token × List Glyph))
    (glyphs : List Glyph) : Option Scan := do
  let noted ← scan.noteKey?
  let (token, rest) ← read glyphs
  return { noted.emit token with rest, allowsKey := false }

/-- A block scalar. -/
def block? (scan : Scan) (isLiteral : Bool) (rest : List Glyph) : Option Scan := do
  let dropped ← scan.dropKey?
  let (text, after) ← block isLiteral scan.indent rest
  return {
    dropped.emit (.scalar false (String.ofList text)) with rest := after, allowsKey := true }

/-- A plain scalar. -/
def plain? (scan : Scan) (glyphs : List Glyph) : Option Scan := do
  let noted ← scan.noteKey?
  let found ← plain (scan.indent + 1) scan.inFlow [] {} glyphs
  return {
    noted.emit (.scalar true (String.ofList found.text)) with
    rest := found.rest
    allowsKey := found.isFolded }

/-- The characters with which no plain scalar begins. -/
def indicators : List Char :=
  ['-', '?', ':', ',', '[', ']', '{', '}', '#', '&', '*', '!', '|', '>', '\'', '"', '%', '@',
    '\x60']

/-- A plain scalar begins with a character before glyphs. -/
def startsPlain (inFlow : Bool) (c : Char) (rest : List Glyph) : Bool :=
  (!isGap c && !indicators.contains c) ||
    (c == '-' && !(rest.head?.map (isSpace ·.char)).getD false) ||
    (!inFlow && (c == '?' || c == ':') && !startsWithGap rest)

/-- Reads the token that begins with a glyph. -/
def token? (scan : Scan) (glyph : Glyph) (rest : List Glyph) : Option Scan :=
  let isIndicator := startsWithGap rest
  if startsWithBound '-' (glyph :: rest) then
    scan.bound? .documentStart rest
  else if startsWithBound '.' (glyph :: rest) then
    scan.bound? .documentEnd rest
  else
    match glyph.char with
    | '[' => scan.open? .flowSequenceStart rest
    | '{' => scan.open? .flowMappingStart rest
    | ']' => scan.close? .flowSequenceEnd rest
    | '}' => scan.close? .flowMappingEnd rest
    | ',' => scan.indicator? .flowEntry true rest
    | '*' => scan.keyPart? (fun glyphs => (name? glyphs).map fun found =>
        (.alias found.1, found.2)) rest
    | '&' => scan.keyPart? (fun glyphs => (name? glyphs).map fun found =>
        (.anchor found.1, found.2)) rest
    | '!' => scan.keyPart? (fun glyphs => (tag? scan.inFlow glyphs).map fun found =>
        (.tag found.1, found.2)) rest
    | '\'' => scan.keyPart? (fun glyphs => (single [] {} glyphs).map fun found =>
        (.scalar false (String.ofList found.1), found.2)) rest
    | '"' => scan.keyPart? (fun glyphs =>
        (double (glyphs.length + 1) [] {} glyphs).map fun found =>
          (.scalar false (String.ofList found.1), found.2)) rest
    | c =>
      if c = '-' ∧ isIndicator then do
        (← scan.rollHere? glyph .blockSequenceStart).indicator? .blockEntry true rest
      else if c = '?' ∧ (scan.inFlow ∨ isIndicator) then do
        (← scan.rollHere? glyph .blockMappingStart).indicator? .key (!scan.inFlow) rest
      else if c = ':' ∧ (scan.inFlow ∨ isIndicator) then
        scan.value? glyph rest
      else if c = '|' ∧ !scan.inFlow then
        scan.block? true rest
      else if c = '>' ∧ !scan.inFlow then
        scan.block? false rest
      else if startsPlain scan.inFlow c rest then
        scan.plain? (glyph :: rest)
      else
        none

/-- Reads the next token; nothing is left to read at the end. -/
def next? (scan : Scan) : Option Scan := do
  let (rest, allowsKey) := skip scan.inFlow scan.allowsKey false scan.rest
  let fresh ← { scan with rest, allowsKey }.dropStale?
  match rest with
  | [] => (fresh.unroll (-1)).dropKey?
  | glyph :: more => (fresh.unroll glyph.column).token? glyph more

/-- Reads tokens, at most `fuel` of them. -/
def run (fuel : Nat) (scan : Scan) : Option Scan :=
  match fuel, scan.rest with
  | 0, _ => none
  | _, [] => (scan.unroll (-1)).dropKey?
  | fuel + 1, _ :: _ => do (← scan.next?).run fuel

end Scan

/-- The tokens of a text. -/
def tokens? (text : String) : Option (List Token) := do
  let glyphs ← glyphs? text
  let scan ← Scan.run (glyphs.length + 1) { rest := glyphs }
  return scan.tokens.reverse

end CloudPlan.Yaml
