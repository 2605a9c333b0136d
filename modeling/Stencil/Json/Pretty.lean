import Stencil.Json.Printer

/-!
# JSON text for the eye

A value is written over several lines, one for each item and member, indented by two spaces a level.
Empty lists and objects stay on their line, and characters beyond ASCII are written as they are.
-/

namespace Stencil.Json

/-- How one character of a string is written for the eye. -/
def visibleChar (c : Char) : List Char := if 127 ≤ c.toNat then [c] else escapeChar c

/-- A string in quotes, for the eye. -/
def visibleString (s : String) : List Char := '"' :: s.toList.flatMap visibleChar ++ ['"']

/-- A line end and the indentation of a level. -/
def newLine (level : Nat) : List Char := '\n' :: List.replicate (2 * level) ' '

/-- Items between brackets, each on a line of its own. -/
def block (opening closing : Char) (level : Nat) (items : List (List Char)) : List Char :=
  if items.isEmpty then [opening, closing]
  else opening :: newLine (level + 1) ++ joined (',' :: newLine (level + 1)) items ++
    newLine level ++ [closing]

mutual

/-- A value that stands at a level. -/
def prettyChars (level : Nat) : Value → Outcome (List Char)
  | .text s => Except.ok (visibleString s)
  | .list items => (prettyItems (level + 1) items).map (block '[' ']' level)
  | .object members => (prettyMembers (level + 1) members).map (block '\x7b' '\x7d' level)
  | v => writeChars .spaced v

/-- The items of a list. -/
def prettyItems (level : Nat) : List Value → Outcome (List (List Char))
  | [] => Except.ok []
  | v :: rest => do
    let first ← prettyChars level v
    return first :: (← prettyItems level rest)

/-- The members of an object. -/
def prettyMembers (level : Nat) : List (Key × Value) → Outcome (List (List Char))
  | [] => Except.ok []
  | (key, v) :: rest => do
    let name ← keyText key
    let value ← prettyChars level v
    return (visibleString name ++ Layout.spaced.colon ++ value) :: (← prettyMembers level rest)

end

/-- A value for the eye. -/
def pretty (v : Value) : Outcome String := (prettyChars 0 v).map String.ofList

end Stencil.Json
