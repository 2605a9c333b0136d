import Stencil.Charset.Basic
import Stencil.Number.Digits

/-!
# Code points in seven bits

ASCII characters stand for themselves, except for the plus sign, which starts a section: the units
of two bytes of further characters in base sixty-four. A minus sign may end a section. A plus sign
is written as an empty section.
-/

namespace Stencil.Charset

/-- The value of a digit of base sixty-four. -/
def sextet? (b : UInt8) : Option Nat :=
  let n := b.toNat
  if 0x41 ≤ n && n ≤ 0x5A then some (n - 0x41)
  else if 0x61 ≤ n && n ≤ 0x7A then some (n - 0x61 + 26)
  else if 0x30 ≤ n && n ≤ 0x39 then some (n - 0x30 + 52)
  else if n = 0x2B then some 62
  else if n = 0x2F then some 63
  else none

/-- What a section has come to. -/
structure Section where
  /-- The characters so far. -/
  chars : List Char := []
  /-- The first half of a pair that waits for the second one. -/
  half? : Option Nat := none
  /-- How many bits are left over. -/
  width : Nat := 0
  /-- The number that the bits left over spell. -/
  bits : Nat := 0

namespace Section

/-- The section after a unit. -/
def addUnit (s : Section) (unit : Nat) : Section :=
  match s.half? with
  | some high =>
    if Json.isLowHalf unit then
      { s with chars := s.chars ++ [Json.pairChar high unit], half? := none }
    else if Json.isHighHalf unit then
      { s with chars := s.chars ++ [Json.unitChar high], half? := some unit }
    else
      { s with chars := s.chars ++ [Json.unitChar high, Json.unitChar unit], half? := none }
  | none =>
    if Json.isHighHalf unit then { s with half? := some unit }
    else { s with chars := s.chars ++ [Json.unitChar unit] }

/-- The section after a digit. -/
def addDigit (s : Section) (d : Nat) : Section :=
  let bits := s.bits * 64 + d
  if s.width < 10 then { s with width := s.width + 6, bits }
  else
    let left := s.width - 10
    { s.addUnit (bits / Number.pow2 left) with width := left, bits := bits % Number.pow2 left }

/-- Whether the bits that are left over are more than filling. -/
def isPartial (s : Section) : Bool := 6 ≤ s.width || s.bits ≠ 0

/-- The characters as pieces. -/
def pieces (s : Section) : List (Option Char) := s.chars.map some

end Section

/-- The step of a section, of whose digits those of `s` have been read. -/
def sectionStep (s : Section) : List UInt8 → Step
  | [] => (s.pieces ++ if s.half?.isSome || s.isPartial then [none] else [], 0)
  | b :: rest =>
    match sextet? b with
    | some d =>
      let (pieces, more) := sectionStep (s.addDigit d) rest
      (pieces, more + 1)
    | none =>
      if s.isPartial then (s.pieces ++ [none], 1)
      else
        let half := if b < 128 && b ≠ 0x2B then (s.half?.map Json.unitChar).toList else []
        (s.pieces ++ half.map some, if b = 0x2D then 1 else 0)

/-- A step of the charset. -/
def sevenStep (b : UInt8) (rest : List UInt8) : Step :=
  if 128 ≤ b then .unknown
  else if b ≠ 0x2B then .same b
  else
    match rest with
    | [] => sectionStep {} rest
    | c :: _ =>
      if c = 0x2D then (.found ['+'] 1)
      else if (sextet? c).isNone then ([none], 1)
      else sectionStep {} rest

/-- Code points in seven bits. -/
def seven : Charset := .ofPieces (readBy sevenStep)

end Stencil.Charset
