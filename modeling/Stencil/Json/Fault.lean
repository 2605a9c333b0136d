import Stencil.Number.Digits

/-!
# Faults in JSON text

A fault names what was expected or found wrong, and where: as a count of characters from the start,
and as a line and a column, both counted from one.
-/

namespace Stencil.Json

/-- What is wrong with a text. -/
inductive Problem where
  /-- A value should stand here. -/
  | value
  /-- A member's name should stand here. -/
  | name
  /-- A colon should stand here. -/
  | colon
  /-- A comma should stand here. -/
  | comma
  /-- Something follows the value. -/
  | extra
  /-- A string that starts here does not end. -/
  | unterminated
  /-- A string holds a control character. -/
  | control
  /-- A backslash is followed by a character that makes no escape. -/
  | escape
  /-- An escape by code point lacks its four digits. -/
  | codePoint
  /-- A byte order mark starts the text. -/
  | byteOrderMark
  deriving DecidableEq, Repr

/-- What a message says about a problem. -/
def Problem.wording : Problem → String
  | .value => "Expecting value"
  | .name => "Expecting property name enclosed in double quotes"
  | .colon => "Expecting ':' delimiter"
  | .comma => "Expecting ',' delimiter"
  | .extra => "Extra data"
  | .unterminated => "Unterminated string starting at"
  | .control => "Invalid control character at"
  | .escape => "Invalid \\escape"
  | .codePoint => "Invalid \\uXXXX escape"
  | .byteOrderMark => "Unexpected UTF-8 BOM (decode using utf-8-sig)"

/-- A problem and its place. -/
structure Fault where
  /-- What is wrong. -/
  problem : Problem
  /-- How many characters stand before the place. -/
  position : Nat
  /-- The line of the place. -/
  line : Nat
  /-- The column of the place. -/
  column : Nat
  deriving DecidableEq, Repr

namespace Fault

/-- The problem at a position of a text. -/
def locate (problem : Problem) (text : List Char) (position : Nat) : Fault :=
  let before := text.take position
  { problem := problem
    position := position
    line := before.count '\n' + 1
    column := (before.reverse.takeWhile (· ≠ '\n')).length + 1 }

/-- The message of a fault. -/
def message (fault : Fault) : String :=
  String.ofList <| fault.problem.wording.toList ++ ": line ".toList ++ Number.digits fault.line ++
    " column ".toList ++ Number.digits fault.column ++ " (char ".toList ++
    Number.digits fault.position ++ [')']

end Fault

end Stencil.Json
