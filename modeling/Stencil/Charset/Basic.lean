import Stencil.Charset.Unit

/-!
# Charsets

A charset tells how bytes stand for characters. Its bytes are read tolerantly, with a replacement in
each place where no character can be read, or strictly. Most charsets are read piece by piece: the
first byte of what is left, and sometimes a state, tell how many bytes belong to the next piece.
-/

namespace Stencil

/-- Why bytes cannot be read as text. -/
inductive CharsetFault where
  /-- Some of the bytes are no characters. -/
  | undecodable
  /-- The charset refuses the bytes as a whole. -/
  | refused
  deriving DecidableEq, Repr

/-- How bytes stand for characters. -/
structure Charset where
  /-- The characters of bytes, with replacements. -/
  readTolerantly : List UInt8 → Except CharsetFault (List Char)
  /-- The characters of bytes all of which can be read. -/
  readStrictly : List UInt8 → Except CharsetFault (List Char)

namespace Charset

/-- The charset whose bytes are pieces with a character or none. -/
def ofPieces (pieces : List UInt8 → List (Option Char)) : Charset where
  readTolerantly bs := .ok (tolerant (pieces bs))
  readStrictly bs :=
    match strict? (pieces bs) with
    | some chars => .ok chars
    | none => .error .undecodable

/-- What stands at the start of bytes: pieces, and how many bytes after the first one belong to
them. -/
abbrev Step := List (Option Char) × Nat

namespace Step

/-- A character of a single byte. -/
def char (c : Char) : Step := ([some c], 0)

/-- The character with the code of a single byte. -/
def same (b : UInt8) : Step := char (Char.ofNat b.toNat)

/-- Nothing that can be read. -/
def unknown : Step := ([none], 0)

/-- The start of something that the bytes do not finish. -/
def short (rest : List UInt8) : Step := ([none], rest.length)

/-- The characters, if there are any, of a byte and some more. -/
def found (chars : List Char) (more : Nat) : Step :=
  if chars.isEmpty then unknown else (chars.map some, more)

end Step

/-- The pieces of bytes. Each step takes a state and a byte with those after it, and gives the next
state with what stands there. -/
def readWith {σ : Type} (step : σ → UInt8 → List UInt8 → σ × Step) (state : σ) :
    List UInt8 → List (Option Char)
  | [] => []
  | b :: rest =>
    let (next, pieces, more) := step state b rest
    pieces ++ readWith step next (rest.drop more)
termination_by bs => bs.length
decreasing_by
  simp only [List.length_drop, List.length_cons]
  omega

/-- The pieces of bytes without a state. -/
def readBy (step : UInt8 → List UInt8 → Step) : List UInt8 → List (Option Char) :=
  readWith (fun () b rest => ((), step b rest)) ()

/-- The step of a charset that has ASCII, and characters for pairs of bytes from 128 on. -/
def pairStep (find : Nat → List Char) (b : UInt8) (rest : List UInt8) : Step :=
  if b < 128 then .same b
  else
    match rest with
    | [] => .short rest
    | c :: _ => .found (find (b.toNat * 256 + c.toNat)) 1

end Charset

end Stencil
