import Stencil.Charset.Basic
import Stencil.Charset.Table.SingleByte

/-!
# Charsets of single bytes

In these charsets every byte is a character or nothing.
-/

namespace Stencil.Charset

/-- The charset whose bytes stand for the code points of the same numbers up to a first one, and for
the characters of a grid from there on. -/
def singleByte (first : Nat) (grid : Grid) : Charset :=
  .ofPieces fun bs => bs.map fun b =>
    if b.toNat < first then some (Char.ofNat b.toNat) else grid.find? b.toNat

/-- A charset of mainframes: the first 64 bytes are control characters. -/
def mainframe (grid : Grid) : Charset :=
  .ofPieces fun bs => bs.map fun b =>
    match Table.mainframeControls[b.toNat]? with
    | some code => some (Char.ofNat code)
    | none => grid.find? b.toNat

/-- The first 128 code points. -/
def ascii : Charset := singleByte 128 []

/-- The first 256 code points. -/
def latin : Charset := singleByte 256 []

end Stencil.Charset
