import Stencil.Charset.Japanese
import Stencil.Charset.Korean

/-!
# Charsets with designations

Some charsets of seven bits switch between sets of characters by sequences that start with an
escape. A set is designated for one of three places. The first place is in use unless a shift puts
the second one into use; the third one is for single characters that a sequence announces.
-/

namespace Stencil.Charset

/-- A set of characters that can be designated. -/
inductive CharacterSet where
  /-- ASCII. -/
  | ascii
  /-- ASCII with a yen sign. -/
  | yen
  /-- Narrow kana. -/
  | narrow
  /-- The Western European set of 96 characters. -/
  | western
  /-- The Greek set of 96 characters. -/
  | greek
  /-- JIS X 0208. -/
  | kanji
  /-- An earlier form of the same. -/
  | earlyKanji
  /-- JIS X 0212. -/
  | kanjiMore
  /-- The first plane of JIS X 0213. -/
  | firstPlane (e : Edition)
  /-- The second plane of JIS X 0213. -/
  | secondPlane
  /-- GB 2312. -/
  | guobiao
  /-- KS X 1001. -/
  | korean
  deriving DecidableEq, Repr

namespace CharacterSet

/-- The last byte of the sequence that designates a set. -/
def mark : CharacterSet → UInt8
  | .ascii | .kanji => 0x42
  | .yen => 0x4A
  | .narrow => 0x49
  | .western | .guobiao => 0x41
  | .greek => 0x46
  | .earlyKanji => 0x40
  | .kanjiMore => 0x44
  | .firstPlane .first => 0x4F
  | .firstPlane .second => 0x51
  | .secondPlane => 0x50
  | .korean => 0x43

/-- Whether the characters of a set have two bytes. -/
def isDouble : CharacterSet → Bool
  | .ascii | .yen | .narrow | .western | .greek => false
  | _ => true

/-- A character of the Greek set. -/
def greekChar? (b : UInt8) : Option Char :=
  let c := b.toNat
  if c = 0xA1 then some '‘'
  else if c = 0xA2 then some '’'
  else if c = 0xAF then some '―'
  else if c < 0xA0 || [0xA0, 0xA3, 0xA6, 0xA7, 0xA8, 0xA9, 0xAB, 0xAC, 0xAD, 0xB0, 0xB1, 0xB2,
      0xB3, 0xB7, 0xBB, 0xBD].contains c then some (Char.ofNat c)
  else if 0xB4 ≤ c && c ≤ 0xFE && c ≠ 0xD2 then some (Char.ofNat (0x2D0 + c))
  else none

/-- The character of a byte in a set of single bytes. -/
def single? (s : CharacterSet) (b : UInt8) : Option Char :=
  match s with
  | .ascii => some (Char.ofNat b.toNat)
  | .yen => if b = 0x5C then some '¥' else if b = 0x7E then some '‾' else some (Char.ofNat b.toNat)
  | .narrow => narrow? (b + 128)
  | _ => none

/-- The characters of a code in a set of two bytes. -/
def double (s : CharacterSet) (code : Nat) : List Char :=
  match s with
  | .kanji | .earlyKanji => kanjiChars code
  | .kanjiMore => charsAmong [Table.kanjiMore] code
  | .firstPlane e => if code = 0xA2B2 then ['~'] else Charset.firstPlane e code
  | .secondPlane => Charset.secondPlane .second code
  | .guobiao => charsAmong [Table.guobiao] code
  | .korean => charsAmong [Table.korean] code
  | _ => []

end CharacterSet

/-- A charset with designations. -/
structure Scheme where
  /-- The sets that can be designated, besides ASCII. -/
  sets : List CharacterSet
  /-- Whether shifts are known. -/
  hasShifts : Bool := false
  /-- Whether there is a third place. -/
  hasThird : Bool := false
  /-- Whether a sequence may announce a later form of a set. -/
  hasRevision : Bool := true

/-- What the sequences so far have come to. -/
structure Designated where
  /-- The set of the first place. -/
  first : CharacterSet := .ascii
  /-- The set of the second place. -/
  second : CharacterSet := .ascii
  /-- The set of the third place. -/
  third : CharacterSet := .ascii
  /-- Whether the second place is in use. -/
  shifted : Bool := false
  /-- Whether a sequence that is not known goes on. -/
  passing : Bool := false
  deriving DecidableEq, Repr

/-- Whether a byte ends a sequence. -/
def endsSequence (b : UInt8) : Bool := 0x40 ≤ b && b ≤ 0x5A

/-- How many bytes the sequence at the start of bytes has; `seen` of them come before. None if the
bytes do not finish it, and zero if it is too long. -/
def sequenceLength (hasRevision : Bool) : Nat → Nat → List UInt8 → Option Nat
  | 0, _, _ => some 0
  | _ + 1, _, [] => none
  | left + 1, seen, b :: rest =>
    if endsSequence b then some (seen + 1)
    else if hasRevision && b = 0x26 && rest.head? = some 0x40 then
      sequenceLength hasRevision (left - 2) (seen + 3) (rest.drop 2)
    else sequenceLength hasRevision left (seen + 1) rest

/-- What a sequence designates: the place, from zero on, and whether its set has two bytes, with the
last byte. None if it is not known. -/
def designation? (scheme : Scheme) : List UInt8 → Option (Nat × Bool × UInt8)
  | [0x24, c] => some (0, true, c)
  | [a, c] =>
    if a = 0x28 then some (0, false, c)
    else if a = 0x29 then some (1, false, c)
    else if a = 0x2E && scheme.hasThird then some (2, false, c)
    else none
  | [0x24, a, c] =>
    if a = 0x28 then some (0, true, c) else if a = 0x29 then some (1, true, c) else none
  | [_, _, 0x1B, 0x24, 0x42] => if scheme.hasRevision then some (0, true, 0x42) else none
  | _ => none

/-- The set with a last byte. -/
def setOf? (scheme : Scheme) (isDouble : Bool) (mark : UInt8) : Option CharacterSet :=
  (.ascii :: scheme.sets).find? fun s => s.mark = mark && s.isDouble = isDouble

/-- The state after a set has been designated for a place. -/
def Designated.put (state : Designated) (place : Nat) (s : CharacterSet) : Designated :=
  match place with
  | 0 => { state with first := s }
  | 1 => { state with second := s }
  | _ => { state with third := s }

/-- The step of a sequence that designates a set. -/
def designate (scheme : Scheme) (state : Designated) (rest : List UInt8) : Designated × Step :=
  match sequenceLength scheme.hasRevision 15 0 rest with
  | none => (state, .short rest)
  | some 0 => (state, .unknown)
  | some length =>
    let found := do
      let (place, isDouble, mark) ← designation? scheme (rest.take length)
      return (place, ← setOf? scheme isDouble mark)
    match found with
    | some (place, s) => (state.put place s, [], length)
    | none => (state, [none], length)

/-- The character of a byte in the third place. -/
def thirdChar? (s : CharacterSet) (b : UInt8) : Option Char :=
  if 128 ≤ b then none
  else
    match s with
    | .western => some (Char.ofNat (b.toNat + 128))
    | .greek => CharacterSet.greekChar? (b + 128)
    | .ascii => some (Char.ofNat b.toNat)
    | _ => none

/-- Whether a byte after an escape starts the designation of a set. -/
def startsDesignation (b : UInt8) : Bool := [0x28, 0x29, 0x24, 0x2E, 0x26].contains b

/-- The step of an escape. -/
def escape (scheme : Scheme) (state : Designated) (rest : List UInt8) : Designated × Step :=
  match rest with
  | [] => (state, .short rest)
  | b :: more =>
    if startsDesignation b then designate scheme state rest
    else if scheme.hasThird && b = 0x4E then
      match more with
      | [] => (state, .short rest)
      | c :: _ =>
        match thirdChar? state.third c with
        | some c => (state, [some c], 2)
        | none => (state, [none], 2)
    else ({ state with passing := true }, .char '\x1b')

/-- The step of a byte of the set in use. -/
def inUse (state : Designated) (b : UInt8) (rest : List UInt8) : Step :=
  let s := if state.shifted then state.second else state.first
  if s.isDouble then
    match rest with
    | [] => .short rest
    | c :: _ =>
      let chars := if 128 ≤ c then []
        else s.double (b.toNat * 256 + c.toNat + 0x8080)
      if chars.isEmpty then ([none], 1) else .found chars 1
  else .found (s.single? b).toList 0

/-- A step of a charset with designations. -/
def designatedStep (scheme : Scheme) (state : Designated) (b : UInt8) (rest : List UInt8) :
    Designated × Step :=
  if state.passing then ({ state with passing := !endsSequence b }, .same b)
  else if b = 0x1B then escape scheme state rest
  else if b = 0x0F && scheme.hasShifts then ({ state with shifted := false }, [], 0)
  else if b = 0x0E && scheme.hasShifts then ({ state with shifted := true }, [], 0)
  else if b = 0x0A then ({ state with shifted := false }, .same b)
  else if b < 0x20 then (state, .same b)
  else if 128 ≤ b then (state, .unknown)
  else (state, inUse state b rest)

/-- How many bytes can be kept back when the bytes end inside a sequence. -/
def maxKept : Nat := 8

/-- Whether the bytes end inside a sequence that is too long to be kept back. -/
def endsInside (scheme : Scheme) (state : Designated) : List UInt8 → Bool
  | [] => false
  | b :: rest =>
    let (next, _, more) := designatedStep scheme state b rest
    (!state.passing && b = 0x1B && rest.head?.any startsDesignation &&
      (sequenceLength scheme.hasRevision 15 0 rest).isNone && maxKept ≤ rest.length) ||
      endsInside scheme next (rest.drop more)
termination_by bs => bs.length
decreasing_by
  simp only [List.length_drop, List.length_cons]
  omega

/-- The charset of a scheme. -/
def designated (scheme : Scheme) : Charset :=
  let plain := ofPieces (readWith (designatedStep scheme) {})
  { plain with
    readTolerantly bs :=
      if endsInside scheme {} bs then .error .refused else plain.readTolerantly bs }

end Stencil.Charset
