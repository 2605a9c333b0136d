import Stencil.Charset.Chinese
import Stencil.Charset.Table.Japanese

/-!
# Japanese charsets

Japanese characters are in tables of 94 rows of 94 columns. One family of charsets takes two bytes
from 161 on for a row and a column, with a third byte before them for the characters of a further
table; another one shifts rows and columns, so that narrow characters take single bytes.
-/

namespace Stencil.Charset

/-- The characters of the first tables. -/
def kanjiChars (code : Nat) : List Char := charsAmong [Table.kanji] code

/-- The codes that the first edition of JIS X 0213 does not have. -/
def laterCodes : List Nat := [
  0xAEA1, 0xAFFE, 0xCFD4, 0xCFFE, 0xF4A7, 0xFEFA, 0xFEFB, 0xFEFC, 0xFEFD, 0xFEFE]

/-- The editions of JIS X 0213. -/
inductive Edition where
  /-- The edition of 2000. -/
  | first
  /-- The edition of 2004. -/
  | second
  deriving DecidableEq, Repr

/-- Whether an edition has a code on its first plane. -/
def Edition.has (e : Edition) (code : Nat) : Bool := e = .second || !laterCodes.contains code

/-- The characters of a code on the first plane of JIS X 0213. -/
def firstPlane (e : Edition) (code : Nat) : List Char :=
  if !e.has code then []
  else
    match charsIn Table.kanjiPairs code with
    | [] => charsAmong [Table.kanji, Table.kanjiFirst] code
    | pair => pair

/-- The characters of a code on the second plane of JIS X 0213. -/
def secondPlane (e : Edition) (code : Nat) : List Char :=
  if e = .first && code = 0xFDBB then ['鬝'] else charsAmong [Table.kanjiSecond] code

/-- The narrow character of a byte. -/
def narrow? (b : UInt8) : Option Char :=
  if 0xA1 ≤ b && b ≤ 0xDF then some (Char.ofNat (0xFEC0 + b.toNat)) else none

/-- A step of a charset that marks characters of further tables by the bytes 142 and 143. -/
def markedStep (first second : Nat → List Char) (b : UInt8) (rest : List UInt8) : Step :=
  if b = 0x8E then
    match rest with
    | [] => .short rest
    | c :: _ => .found (narrow? c).toList 1
  else if b = 0x8F then
    match rest with
    | c :: d :: _ => .found (second (c.toNat * 256 + d.toNat)) 2
    | _ => .short rest
  else pairStep first b rest

/-- JIS X 0208 and JIS X 0212. -/
def japanese : Charset :=
  .ofPieces (readBy (markedStep kanjiChars (charsAmong [Table.kanjiMore])))

/-- The characters of a code past a mark: those of the second plane of JIS X 0213, or those of
JIS X 0212. -/
def furtherChars (e : Edition) (code : Nat) : List Char :=
  match secondPlane e code with
  | [] => charsAmong [Table.kanjiMore] code
  | chars => chars

/-- A step of JIS X 0213. A code that an edition does not have takes up two bytes. -/
def editionStep (e : Edition) (b : UInt8) (rest : List UInt8) : Step :=
  match rest with
  | c :: _ =>
    if e.has (b.toNat * 256 + c.toNat) then markedStep (firstPlane e) (furtherChars e) b rest
    else ([none], 1)
  | [] => markedStep (firstPlane e) (furtherChars e) b rest

/-- JIS X 0213. -/
def japaneseEdition (e : Edition) : Charset := .ofPieces (readBy (editionStep e))

/-- The row and the column of two shifted bytes, from zero on. -/
def unshifted? (b c : Nat) : Option (Nat × Nat) :=
  if c < 0x40 || c = 0x7F || 0xFC < c then none
  else
    let row := 2 * (if b < 0xE0 then b - 0x81 else b - 0xC1)
    let column := if c < 0x80 then c - 0x40 else c - 0x41
    some (if column < 94 then (row, column) else (row + 1, column - 94))

/-- The code of a row and a column, from zero on. -/
def cellCode (row column : Nat) : Nat := (row + 0xA1) * 256 + column + 0xA1

/-- Whether a byte starts a pair of shifted bytes. -/
def startsPair (b : UInt8) : Bool := (0x81 ≤ b && b ≤ 0x9F) || (0xE0 ≤ b && b ≤ 0xFC)

/-- A step of a charset of shifted bytes. `single` tells the characters of single bytes. -/
def shiftedStep (single : UInt8 → Option Char) (find : UInt8 → UInt8 → Step) (b : UInt8)
    (rest : List UInt8) : Step :=
  match single b with
  | some c => .char c
  | none =>
    if startsPair b then
      match rest with
      | [] => .short rest
      | c :: _ => find b c
    else .unknown

/-- The character of a single byte next to shifted ones. -/
def singleChar (b : UInt8) : Option Char :=
  if b < 128 then some (Char.ofNat b.toNat) else narrow? b

/-- The characters of two shifted bytes. -/
def shiftedChars (b c : UInt8) : List Char :=
  match unshifted? b.toNat c.toNat with
  | some (row, column) => if row < 94 then kanjiChars (cellCode row column) else []
  | none => []

/-- JIS X 0208 in shifted bytes. -/
def japaneseShifted : Charset :=
  .ofPieces (readBy (shiftedStep singleChar fun b c => .found (shiftedChars b c) 1))

/-- The character of a single byte of code page 932. -/
def singleCharWindows (b : UInt8) : Option Char :=
  if b = 0x80 then some '\x80'
  else if b = 0xA0 then some (Char.ofNat 0xF8F0)
  else if 0xFD ≤ b then some (Char.ofNat (0xF8F1 + (b.toNat - 0xFD)))
  else singleChar b

/-- The characters of two bytes of code page 932. -/
def windowsChars (b c : UInt8) : List Char :=
  match charsAmong [Table.kanjiWindows] (b.toNat * 256 + c.toNat) with
  | [] => shiftedChars b c
  | chars => chars

/-- Code page 932. -/
def japaneseWindows : Charset :=
  .ofPieces (readBy (shiftedStep singleCharWindows fun b c => .found (windowsChars b c) 1))

/-- The character of a single byte next to shifted ones of JIS X 0213. -/
def singleCharEdition (b : UInt8) : Option Char :=
  if b = 0x5C then some '¥' else if b = 0x7E then some '‾' else singleChar b

/-- The row on the second plane that a row past the first one stands for. -/
def secondRow (row : Nat) : Nat :=
  if 103 ≤ row then row - 26 else if 99 ≤ row || row = 95 then row - 88 else row - 94

/-- The step of two shifted bytes of JIS X 0213. A code that an edition does not have takes up both
bytes. -/
def shiftedEdition (e : Edition) (b c : UInt8) : Step :=
  match unshifted? b.toNat c.toNat with
  | none => .unknown
  | some (row, column) =>
    if row < 94 then
      let code := cellCode row column
      if !e.has code then ([none], 1)
      else if code = 0xA1C0 then .found ['\\'] 1
      else if code = 0xA2B2 then .found ['~'] 1
      else .found (firstPlane e code) 1
    else .found (secondPlane e (cellCode (secondRow row) column)) 1

/-- JIS X 0213 in shifted bytes. -/
def japaneseShiftedEdition (e : Edition) : Charset :=
  .ofPieces (readBy (shiftedStep singleCharEdition (shiftedEdition e)))

end Stencil.Charset
