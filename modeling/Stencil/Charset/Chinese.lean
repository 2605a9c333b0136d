import Stencil.Charset.Basic
import Stencil.Charset.Table.BigFive
import Stencil.Charset.Table.Guobiao

/-!
# Chinese charsets

Chinese characters take two bytes each next to ASCII. GB 18030 has a form of four bytes for the rest
of all code points. A charset of seven bits marks where Chinese characters start and end.
-/

namespace Stencil.Charset

/-- The characters of the codes of some grids. -/
def charsAmong (grids : List Grid) (code : Nat) : List Char := (Grid.findAmong? grids code).toList

/-- GB 2312. -/
def guobiao : Charset := .ofPieces (readBy (pairStep (charsAmong [Table.guobiao])))

/-- The grids of GBK. -/
def guobiaoGrids : List Grid := [Table.guobiaoMore, Table.guobiao]

/-- GBK. -/
def guobiaoWide : Charset := .ofPieces (readBy (pairStep (charsAmong guobiaoGrids)))

/-- The code point with a number in the ranges that a list bounds. -/
def nth? : List Nat → Nat → Option Nat
  | first :: last :: rest, n =>
    if n < last - first then some (first + n) else nth? rest (n - (last - first))
  | _, _ => none

/-- The code point of four bytes of GB 18030, of which the second and fourth are digits. -/
def longCode? (a b c d : Nat) : Option Nat :=
  if a < 0x81 || 0xFE < a || c < 0x81 || 0xFE < c || d < 0x30 || 0x39 < d then none
  else
    let n := (((a - 0x81) * 10 + (b - 0x30)) * 126 + (c - 0x81)) * 10 + (d - 0x30)
    if a < 0x85 then nth? Table.guobiaoRest n
    else if 0x90 ≤ a && n - 189000 < 0x100000 then some (0x10000 + (n - 189000))
    else none

/-- A step of GB 18030. -/
def longStep (b : UInt8) (rest : List UInt8) : Step :=
  match rest with
  | [] => if b < 128 then .same b else .short rest
  | c :: more =>
    if b < 128 then .same b
    else if 0x30 ≤ c && c ≤ 0x39 then
      match more with
      | d :: e :: _ =>
        .found ((longCode? b.toNat c.toNat d.toNat e.toNat).map Char.ofNat).toList 3
      | _ => .short rest
    else
      .found (charsAmong (Table.guobiaoMost :: guobiaoGrids) (b.toNat * 256 + c.toNat)) 1

/-- GB 18030. -/
def guobiaoFull : Charset := .ofPieces (readBy longStep)

/-- A step of the charset of seven bits. The state tells whether Chinese characters are read; a
tilde starts the marks. -/
def tildeStep (inside : Bool) (b : UInt8) (rest : List UInt8) : Bool × Step :=
  if b = 0x7E then
    match rest with
    | [] => (inside, .short rest)
    | c :: _ =>
      if inside then (if c = 0x7D then (false, [], 1) else (inside, .unknown))
      else if c = 0x7E then (inside, .found ['~'] 1)
      else if c = 0x7B then (true, [], 1)
      else if c = 0x0A then (inside, [], 1)
      else (inside, .unknown)
  else if 128 ≤ b then (inside, .unknown)
  else if inside then
    match rest with
    | [] => (inside, .short rest)
    | c :: _ =>
      (inside, if 128 ≤ c then .unknown
        else .found (charsAmong [Table.guobiao] (b.toNat * 256 + c.toNat + 0x8080)) 1)
  else (inside, .same b)

/-- GB 2312 in seven bits. -/
def guobiaoMarked : Charset := .ofPieces (readWith tildeStep false)

/-- Big Five. -/
def bigFive : Charset := .ofPieces (readBy (pairStep (charsAmong [Table.bigFive])))

/-- Code page 950. -/
def bigFiveWindows : Charset :=
  .ofPieces (readBy (pairStep (charsAmong [Table.bigFiveWindows, Table.bigFive])))

/-- The characters of a code of a mapping. -/
def charsIn (mapping : List (Nat × List Nat)) (code : Nat) : List Char :=
  ((mapping.lookup code).getD []).map Char.ofNat

/-- The characters of a code of Big Five in Hong Kong. -/
def hongKongChars (code : Nat) : List Char :=
  match charsIn Table.bigFiveHongKongPairs code with
  | [] => charsAmong [Table.bigFiveHongKong, Table.bigFive] code
  | pair => pair

/-- Big Five in Hong Kong. -/
def bigFiveHongKong : Charset := .ofPieces (readBy (pairStep hongKongChars))

end Stencil.Charset
