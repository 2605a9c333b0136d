import Stencil.Text.Decomposition
import Stencil.Text.Mark

/-!
# Normal forms of text

Texts that are the same may be written with different characters. In the composed form each letter
has taken up the marks that it can; in the compatible form characters that only look different have
been replaced first.
-/

namespace Stencil.Text

/-- The first syllable of Hangul. -/
def syllableBase : Nat := 0xAC00

/-- How many syllables of Hangul there are. -/
def syllableCount : Nat := 11172

/-- The parts of a syllable of Hangul. -/
def syllableParts (index : Nat) : List Char :=
  let tail := index % 28
  [Char.ofNat (0x1100 + index / 588), Char.ofNat (0x1161 + index % 588 / 28)] ++
    (if tail = 0 then [] else [Char.ofNat (0x11A7 + tail)])

/-- What a character is the same as, in full. -/
def canonicalParts (c : Char) : List Char :=
  let n := c.toNat
  if n < 128 then [c]
  else if syllableBase ≤ n && n < syllableBase + syllableCount then
    syllableParts (n - syllableBase)
  else
    match canonicalSpellings.lookup n with
    | some parts => parts.map Char.ofNat
    | none => [c]

/-- What a character looks like, in full. -/
def compatibleParts (c : Char) : List Char :=
  if c.toNat < 128 then [c]
  else
    match compatibleSpellings.lookup c.toNat with
    | some parts => parts.map Char.ofNat
    | none => canonicalParts c

/-- A mark put in front of the marks of higher classes before it. The text is in reverse. -/
def insertMark (c : Char) : List Char → List Char
  | [] => [c]
  | before :: rest =>
    if markClass c < markClass before && markClass c ≠ 0 then before :: insertMark c rest
    else c :: before :: rest

/-- The marks after each letter in the order of their classes. -/
def orderMarks (cs : List Char) : List Char :=
  (cs.foldl (fun done c => insertMark c done) []).reverse

/-- The character that two characters are put together to. -/
def compose? (a b : Char) : Option Char :=
  let (m, n) := (a.toNat, b.toNat)
  if 0x1100 ≤ m && m < 0x1113 && 0x1161 ≤ n && n < 0x1176 then
    some (Char.ofNat (syllableBase + ((m - 0x1100) * 21 + (n - 0x1161)) * 28))
  else if syllableBase ≤ m && m < syllableBase + syllableCount && (m - syllableBase) % 28 = 0 &&
      0x11A8 ≤ n && n < 0x11C3 then
    some (Char.ofNat (m + (n - 0x11A7)))
  else
    (compositions.find? fun entry => entry.2 = [m, n]).map fun entry => Char.ofNat entry.1

/-- What is known while a text is put together. -/
structure Composing where
  /-- The text before the last letter, in reverse. -/
  done : List Char := []
  /-- The last letter, which may still take up marks. -/
  starter : Option Char := none
  /-- What follows the last letter and has not been taken up, in reverse. -/
  marks : List Char := []

/-- One more character. A letter takes up a mark unless one of the same or a higher class stands in
between. -/
def Composing.add (state : Composing) (c : Char) : Composing :=
  let fresh : Composing :=
    { done := state.marks ++ state.starter.toList ++ state.done
      starter := some c }
  let kept : Composing := { state with marks := c :: state.marks }
  let isBlocked := match state.marks with
    | [] => false
    | before :: _ => markClass before = 0 || markClass c ≤ markClass before
  match state.starter with
  | none => if markClass c = 0 then fresh else kept
  | some starter =>
    match if isBlocked then none else compose? starter c with
    | some whole => { state with starter := some whole }
    | none => if markClass c = 0 then fresh else kept

/-- A text with letters and marks put together. -/
def composeAll (cs : List Char) : List Char :=
  let state := cs.foldl Composing.add {}
  (state.marks ++ state.starter.toList ++ state.done).reverse

/-- Whether all characters are ASCII. -/
def isAscii (cs : List Char) : Bool := cs.all fun c => decide (c.toNat < 128)

/-- The composed form of a text. -/
def composed (cs : List Char) : List Char :=
  if isAscii cs then cs else composeAll (orderMarks (cs.flatMap canonicalParts))

/-- The composed form of a text without characters that only look different. -/
def compatible (cs : List Char) : List Char :=
  if isAscii cs then cs else composeAll (orderMarks (cs.flatMap compatibleParts))

end Stencil.Text
