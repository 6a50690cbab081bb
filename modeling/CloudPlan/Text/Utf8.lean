/-!
# UTF-8

Bytes as characters.  A byte that belongs to no character stays a byte, so that a
reader can decide where it matters.
-/

namespace CloudPlan.Text.Utf8

/-- A character or a byte that belongs to none. -/
inductive Piece where
  | char (c : Char)
  | stray (byte : UInt8)

/-- The six payload bits of a continuation byte. -/
def continuation? (byte : UInt8) : Option Nat :=
  if 0x80 ≤ byte ∧ byte < 0xC0 then some (byte.toNat - 0x80) else none

/-- The character of a code, when the code is at least the given bound and valid. -/
def scalar? (least code : Nat) : Option Char :=
  if least ≤ code ∧ code.isValidChar then some (Char.ofNat code) else none

/-- The two-byte character of a lead byte and what follows it. -/
def two? (lead second : UInt8) : Option Char := do
  guard (0xC0 ≤ lead ∧ lead < 0xE0)
  let low ← continuation? second
  scalar? 0x80 ((lead.toNat - 0xC0) * 64 + low)

/-- The three-byte character of a lead byte and what follows it. -/
def three? (lead second third : UInt8) : Option Char := do
  guard (0xE0 ≤ lead ∧ lead < 0xF0)
  let middle ← continuation? second
  let low ← continuation? third
  scalar? 0x800 (((lead.toNat - 0xE0) * 64 + middle) * 64 + low)

/-- The four-byte character of a lead byte and what follows it. -/
def four? (lead second third fourth : UInt8) : Option Char := do
  guard (0xF0 ≤ lead ∧ lead < 0xF8)
  let high ← continuation? second
  let middle ← continuation? third
  let low ← continuation? fourth
  scalar? 0x10000 ((((lead.toNat - 0xF0) * 64 + high) * 64 + middle) * 64 + low)

/-- The pieces that the bytes spell, at most `fuel` of them. -/
def piecesWithin : Nat → List UInt8 → List Piece
  | 0, _ => []
  | _, [] => []
  | fuel + 1, lead :: rest =>
    if lead < 0x80 then
      .char (Char.ofNat lead.toNat) :: piecesWithin fuel rest
    else
      let found : Option (Char × List UInt8) :=
        match rest with
        | b :: c :: d :: more =>
          ((two? lead b).map (·, c :: d :: more)).or
            (((three? lead b c).map (·, d :: more)).or
              ((four? lead b c d).map (·, more)))
        | b :: c :: more =>
          ((two? lead b).map (·, c :: more)).or ((three? lead b c).map (·, more))
        | b :: more => (two? lead b).map (·, more)
        | [] => none
      match found with
      | some (c, more) => .char c :: piecesWithin fuel more
      | none => .stray lead :: piecesWithin fuel rest

/-- The pieces that the bytes spell. -/
def pieces (bytes : List UInt8) : List Piece :=
  piecesWithin bytes.length bytes

/-- The characters that the bytes spell, when every byte belongs to one. -/
def decode? (bytes : List UInt8) : Option (List Char) :=
  (pieces bytes).mapM fun
    | .char c => some c
    | .stray _ => none

end CloudPlan.Text.Utf8
