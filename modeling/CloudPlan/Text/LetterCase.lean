import CloudPlan.Text.LetterCase.Table

/-!
# Letter case

The full lower-case and upper-case mappings of text.  A character may map to
several, and a capital sigma at the end of a word maps to the final sigma.
-/

namespace CloudPlan.Text

namespace LetterCase

/-- What a run of the table maps a character to, if the character belongs to it. -/
def Run.map? (run : Run) (code : Nat) : Option Nat :=
  if run.first ≤ code ∧ code ≤ run.last ∧ (code - run.first) % run.step = 0 then
    some ((code : Int) + run.shift).toNat
  else
    none

/-- A character code lies in one of the ranges. -/
def inRanges (ranges : List (Nat × Nat)) (code : Nat) : Bool :=
  ranges.any fun range => range.1 ≤ code && code ≤ range.2

/-- A character with the property Cased. -/
def isCased (c : Char) : Bool := inRanges casedRanges c.toNat

/-- A character with the property Case_Ignorable. -/
def isIgnorable (c : Char) : Bool := inRanges ignorableRanges c.toNat

/-- The characters go on, past those that case ignores, with a cased one. -/
def meetsCased (chars : List Char) : Bool :=
  ((chars.dropWhile isIgnorable).head?.map isCased).getD false

/-- The lower case of a character on its own. -/
def lowerChar (c : Char) : List Char :=
  if c.toNat < 128 then
    [c.toLower]
  else if c.toNat = 0x130 then
    ['i', Char.ofNat 0x307]
  else
    match lowerRuns.findSome? (·.map? c.toNat) with
    | some code => [Char.ofNat code]
    | none => [c]

/-- The upper case of a character. -/
def upperChar (c : Char) : List Char :=
  if c.toNat < 128 then
    [c.toUpper]
  else
    match upperSequences.lookup c.toNat with
    | some codes => codes.map Char.ofNat
    | none =>
      match upperRuns.findSome? (·.map? c.toNat) with
      | some code => [Char.ofNat code]
      | none => [c]

/--
The lower case of characters that stand after the given ones (nearest first).  A
capital sigma is final when a letter stands before it and none after it.
-/
def lowerChars (before : List Char) : List Char → List Char
  | [] => []
  | c :: rest =>
    (if c = 'Σ' then
      [if meetsCased before && !meetsCased rest then 'ς' else 'σ']
    else
      lowerChar c) ++ lowerChars (c :: before) rest

end LetterCase

/-- The text in lower case. -/
def lower (text : String) : String :=
  String.ofList (LetterCase.lowerChars [] text.toList)

/-- The text in upper case. -/
def upper (text : String) : String :=
  String.ofList (text.toList.flatMap LetterCase.upperChar)

/-- The text with its ASCII letters in lower case and all else unchanged. -/
def lowerAscii (text : String) : String :=
  String.ofList (text.toList.map Char.toLower)

end CloudPlan.Text
