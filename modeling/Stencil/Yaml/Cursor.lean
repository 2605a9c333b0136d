import Stencil.Failure

/-!
# Places in a YAML text

A cursor is a place in a text: what follows, and how many characters, lines and columns came before.
Past the end of the text the cursor reads a null character, which no text may hold.
-/

namespace Stencil.Yaml

/-- Why a text is no document. -/
inductive Fault where
  /-- The text breaks the rules of the format. -/
  | malformed
  /-- A scalar cannot be converted to the value that its form promises. -/
  | defect (d : Defect)
  deriving DecidableEq, Repr

/-- A place in a text. -/
structure Cursor where
  /-- What follows. -/
  rest : List Char
  /-- How many characters came before. -/
  index : Nat := 0
  /-- How many lines came before. -/
  line : Nat := 0
  /-- How many characters came before on the line. -/
  column : Nat := 0

/-- The character that stands for the end of the text. -/
def endChar : Char := Char.ofNat 0

/-- A character that ends a line. Carriage returns are gone when a file has been read. -/
def isBreak (c : Char) : Bool :=
  c = '\n' || c = '\u0085' || c = '\u2028' || c = '\u2029'

/-- A line end or the end of the text. -/
def isLineEnd (c : Char) : Bool := c = endChar || isBreak c

/-- A space, a line end or the end of the text. -/
def isSpaceOrEnd (c : Char) : Bool := c = ' ' || isLineEnd c

/-- A space, a tab, a line end or the end of the text. -/
def isBlankOrEnd (c : Char) : Bool := c = '\t' || isSpaceOrEnd c

/-- The byte order mark, which takes no column. -/
def byteOrderMark : Char := '\uFEFF'

/-- A character that a text may hold. -/
def isAllowed (c : Char) : Bool :=
  let n := c.toNat
  n = 9 || n = 10 || n = 13 || (32 ≤ n && n ≤ 126) || n = 0x85 || (0xA0 ≤ n && n ≤ 0xD7FF) ||
    (0xE000 ≤ n && n ≤ 0xFFFD) || 0x10000 ≤ n

namespace Cursor

/-- The character at the place. -/
def peek (c : Cursor) : Char := c.rest.headD endChar

/-- The character `n` places further on. -/
def peekAt (c : Cursor) (n : Nat) : Char := (c.rest.drop n).headD endChar

/-- The next place. -/
def next (c : Cursor) : Cursor :=
  match c.rest with
  | [] => c
  | ch :: rest =>
    if isBreak ch then ⟨rest, c.index + 1, c.line + 1, 0⟩
    else ⟨rest, c.index + 1, c.line, if ch = byteOrderMark then c.column else c.column + 1⟩

/-- The place `n` characters further on. -/
def skip (c : Cursor) : Nat → Cursor
  | 0 => c
  | n + 1 => c.next.skip n

/-- The characters from the place on that belong to a class, and the place after them. -/
def span (c : Cursor) (p : Char → Bool) : List Char × Cursor :=
  let taken := c.rest.takeWhile p
  (taken, c.skip taken.length)

/-- The place after the characters that belong to a class. -/
def dropWhile (c : Cursor) (p : Char → Bool) : Cursor := (c.span p).2

/-- The place after the spaces. -/
def dropSpaces (c : Cursor) : Cursor := c.dropWhile (· = ' ')

/-- The line end at the place, as it stands in a scalar, and the place after it. -/
def lineBreak? (c : Cursor) : Option (Char × Cursor) :=
  let ch := c.peek
  if ch = '\u2028' || ch = '\u2029' then some (ch, c.next)
  else if isBreak ch then some ('\n', c.next)
  else none

/-- Whether the text goes on with three equal marks that separate documents. -/
def atSeparator (c : Cursor) : Bool :=
  match c.rest with
  | '-' :: '-' :: '-' :: rest => isBlankOrEnd (rest.headD endChar)
  | '.' :: '.' :: '.' :: rest => isBlankOrEnd (rest.headD endChar)
  | _ => false

/-- The place after a comment, if one starts here. -/
def dropComment (c : Cursor) : Cursor :=
  if c.peek = '#' then c.dropWhile fun ch => !isLineEnd ch else c

/-- The place after the rest of a line that holds only spaces and a comment. -/
def ignoredLine? (c : Cursor) : Option Cursor :=
  let c := c.dropSpaces.dropComment
  if isLineEnd c.peek then some ((c.lineBreak?.map Prod.snd).getD c) else none

end Cursor

end Stencil.Yaml
