/-!
# Spans in literal text

A literal text may hold spans, each a schema between `@` with an opening brace and a closing brace
with `@`. A span ends at the first closing mark after its opening mark; it holds no further opening
mark and no line end. Whatever is not part of a span stands for itself.
-/

namespace Stencil.Expression

/-- A piece of a literal text. -/
inductive Piece where
  /-- A character that stands for itself. -/
  | char (c : Char)
  /-- A span with the schema inside. -/
  | span (body : List Char)
  deriving DecidableEq, Repr

/-- The characters of a text as pieces. -/
def plain (cs : List Char) : List Piece := cs.map .char

/-- The mark that opens a span. -/
def openMark : List Char := ['@', '\x7b']

/-- The pieces of a text. Inside a span that may still turn out to be none, `body` holds the
characters after its opening mark in reverse. -/
def piecesFrom : Option (List Char) → List Char → List Piece
  | none, [] => []
  | none, '@' :: '\x7b' :: rest => piecesFrom (some []) rest
  | none, c :: rest => .char c :: piecesFrom none rest
  | some body, [] => plain (openMark ++ body.reverse)
  | some body, '\x7d' :: '@' :: rest => .span body.reverse :: piecesFrom none rest
  | some body, '@' :: '\x7b' :: rest =>
    plain (openMark ++ body.reverse) ++ piecesFrom (some []) rest
  | some body, c :: rest =>
    if c = '\n' then plain (openMark ++ body.reverse ++ [c]) ++ piecesFrom none rest
    else piecesFrom (some (c :: body)) rest

/-- The pieces of a text. -/
def pieces (text : List Char) : List Piece := piecesFrom none text

/-- The text that pieces were found in. -/
def spell : List Piece → List Char
  | [] => []
  | .char c :: rest => c :: spell rest
  | .span body :: rest => openMark ++ body ++ ['\x7d', '@'] ++ spell rest

/-- Characters that stand for themselves spell themselves. -/
theorem spell_plain (cs : List Char) (rest : List Piece) :
    spell (plain cs ++ rest) = cs ++ spell rest := by
  induction cs with
  | nil => rfl
  | cons c cs ih => simpa [plain, spell] using ih

/-- Finding pieces loses and adds nothing. -/
theorem spell_piecesFrom (body : Option (List Char)) (text : List Char) :
    spell (piecesFrom body text) =
      (match body with
        | none => []
        | some cs => openMark ++ cs.reverse) ++ text := by
  fun_induction piecesFrom body text with
  | case1 => rfl
  | case2 rest ih => simpa [openMark] using ih
  | case3 c rest _ ih => simpa [spell] using ih
  | case4 body => simpa [spell] using spell_plain (openMark ++ body.reverse) []
  | case5 body rest ih => simpa [spell] using ih
  | case6 body rest ih => simpa [spell_plain, openMark] using ih
  | case7 body rest _ _ ih => simpa [spell_plain] using ih
  | case8 body c rest _ _ _ ih => simpa using ih

end Stencil.Expression
