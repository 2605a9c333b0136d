import Stencil.Charset.Basic
import Stencil.Http.Domain.Prepared

/-!
# Host names as charsets

The forms that labels and names of other scripts have in ASCII may be used as charsets.
-/

namespace Stencil.Charset

/-- The ASCII characters of bytes as pieces. -/
def asciiPieces (bs : List UInt8) : List (Option Char) :=
  bs.map fun b => if b < 128 then some (Char.ofNat b.toNat) else none

/-- The ASCII characters of bytes. -/
def readAscii (bs : List UInt8) : Except CharsetFault (List Char) :=
  match strict? (asciiPieces bs) with
  | some chars => .ok chars
  | none => .error .undecodable

/-- The bytes of a label before the last hyphen, and those after it. -/
def labelParts (bs : List UInt8) : List UInt8 × List UInt8 :=
  let coded := (bs.reverse.takeWhile (· ≠ 0x2D)).reverse
  ((bs.take (bs.length - coded.length)).dropLast, coded)

/-- The label of bytes. -/
def readLabel (bs : List UInt8) : Except CharsetFault (List Char) := do
  let chars ← readAscii bs
  match Http.Punycode.decode? chars with
  | some label => return label
  | none => throw .refused

/-- The form of labels, which is tolerantly read up to what cannot be read. -/
def label : Charset where
  readTolerantly bs := do
    let (basic, coded) := labelParts bs
    let coded ← readAscii coded
    return Http.Punycode.putInTolerantly 72 128 0 true (tolerant (asciiPieces basic)) coded
  readStrictly := readLabel

/-- The label that a part of a name stands for. -/
def readNamePart (bs : List UInt8) : Except CharsetFault (List Char) := do
  let mark := Http.Domain.mark.map fun c => c.toNat.toUInt8
  if mark.isPrefixOf bs then
    let _ ← readLabel (bs.drop mark.length)
    match Http.Domain.unpreparedLabel? (← readAscii bs) with
    | some label => return label
    | none => throw .refused
  else readAscii bs

/-- The parts of a name between dots, and whether a dot follows the last one. -/
def nameParts (bs : List UInt8) : List (List UInt8) × Bool :=
  let parts := bs.splitOn 0x2E
  if parts.getLast? = some [] then (parts.dropLast, true) else (parts, false)

/-- The form of names, which is never read tolerantly. -/
def name : Charset where
  readTolerantly _ := .error .refused
  readStrictly bs := do
    if bs.isEmpty then return []
    let (parts, isEnded) := nameParts bs
    let labels ← parts.mapM readNamePart
    return ['.'].intercalate labels ++ (if isEnded then ['.'] else [])

end Stencil.Charset
