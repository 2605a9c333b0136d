import Stencil.Text.Table

/-!
# Characters by their codes

A grid tells the characters of codes. It is written as a text of rows. A row has a code and the
characters of the codes from it on, as in `a1c0 ＼±×`, or a range of codes and the code point of the
first of as many characters that follow each other, as in `aaa1-aafe e000`.
-/

namespace Stencil.Charset

/-- Characters with codes that follow each other. -/
structure Row where
  /-- The code of the first character. -/
  first : Nat
  /-- The characters. -/
  chars : Array Char
  deriving Repr

/-- Rows of characters. -/
abbrev Grid := List Row

namespace Grid

/-- The row that a line writes. -/
def rowOf (line : List Char) : Row :=
  let head := line.takeWhile (· ≠ ' ')
  let rest := line.drop (head.length + 1)
  match Text.rangeBounds head with
  | [first, last] =>
    if head.contains '-' then
      { first, chars := ((List.range (last - first)).map fun i =>
          Char.ofNat (Text.hexNumber rest + i)).toArray }
    else { first, chars := rest.toArray }
  | _ => { first := 0, chars := #[] }

/-- The grid that a text writes. -/
def ofText (text : String) : Grid :=
  ((text.toList.splitOn '\n').filter fun line => !line.isEmpty).map rowOf

/-- The character of a code. -/
def find? (grid : Grid) (code : Nat) : Option Char :=
  grid.findSome? fun row => if row.first ≤ code then row.chars[code - row.first]? else none

/-- The character of a code in the first of several grids that has one. A replacement stands for
none. -/
def findAmong? (grids : List Grid) (code : Nat) : Option Char :=
  (grids.findSome? fun grid => grid.find? code).filter (· ≠ '\uFFFD')

end Grid

end Stencil.Charset
