import Stencil.Failure

/-!
# Writing JSON text

A value is written on one line, with or without a space after each comma and colon. Characters
beyond ASCII are written as escapes, those of the upper planes as two. A decimal number is written
with its exact digits; one without a fraction is written as an integer.
-/

namespace Stencil.Json

/-- How members and items are separated. -/
inductive Layout where
  /-- A space follows every comma and colon. -/
  | spaced
  /-- No space is written. -/
  | compact
  deriving DecidableEq, Repr

/-- What stands between two items. -/
def Layout.comma : Layout → List Char
  | .spaced => [',', ' ']
  | .compact => [',']

/-- What stands between a name and its value. -/
def Layout.colon : Layout → List Char
  | .spaced => [':', ' ']
  | .compact => [':']

/-- An escape by code unit. -/
def unitEscape (n : Nat) : List Char := '\\' :: 'u' :: Text.hexDigits 4 n

/-- How one character of a string is written. -/
def escapeChar (c : Char) : List Char :=
  if c = '"' then ['\\', '"']
  else if c = '\\' then ['\\', '\\']
  else if c = '\n' then ['\\', 'n']
  else if c = '\r' then ['\\', 'r']
  else if c = '\t' then ['\\', 't']
  else if c = '\x08' then ['\\', 'b']
  else if c = '\x0c' then ['\\', 'f']
  else if 32 ≤ c.toNat && c.toNat < 127 then [c]
  else if c.toNat < 0x10000 then unitEscape c.toNat
  else
    let n := c.toNat - 0x10000
    unitEscape (0xD800 + n / 0x400) ++ unitEscape (0xDC00 + n % 0x400)

/-- A string in quotes. -/
def stringChars (s : String) : List Char := '"' :: s.toList.flatMap escapeChar ++ ['"']

/-- An integer, unless it is too long to be written. -/
def intChars (n : Int) : Outcome (List Char) :=
  if Number.isLong n then Outcome.defect .value else Except.ok (Number.intText n)

/-- A short integer is written in decimal. -/
theorem intChars_of_short {n : Int} (h : Number.isLong n = false) :
    intChars n = Except.ok (Number.intText n) := by
  simp [intChars, h]

/-- A binary number; infinities and the undefined number are written as words. -/
def binaryChars : Binary64 → List Char
  | .infinite negative => (if negative then ['-'] else []) ++ "Infinity".toList
  | .undefined => "NaN".toList
  | x => x.chars

/-- The integer that a decimal number without fraction is written as. -/
def wholeChars (negative : Bool) (coefficient exponent : Nat) : Outcome (List Char) :=
  if coefficient = 0 then Except.ok ['0']
  else if Number.digitLimit < Number.digitCount coefficient + exponent then Outcome.defect .value
  else intChars (Decimal.signed negative (coefficient * Number.pow10 exponent))

/-- A decimal number. -/
def decimalChars (d : Decimal) : Outcome (List Char) :=
  match d with
  | .finite negative coefficient exponent =>
    if 0 ≤ exponent then wholeChars negative coefficient exponent.toNat else Except.ok d.chars
  | .infinite negative => Except.ok (binaryChars (.infinite negative))
  | .undefined _ signaling _ =>
    if signaling then Outcome.defect .value else Except.ok (binaryChars .undefined)

/-- The text that a member's name is written as. -/
def keyText : Key → Outcome String
  | .text s => Except.ok s
  | .null => Except.ok "null"
  | .bool b => Except.ok (if b then "true" else "false")
  | .int n => (intChars n).map String.ofList
  | .binary x => Except.ok x.text
  | .moment m => Except.ok (String.ofList m.chars)
  | .bytes bs => Except.ok (String.ofList (bytesLiteral bs))

/-- A text key is its own text. -/
theorem keyText_text (s : String) : keyText (.text s) = Except.ok s := rfl

/-- Parts joined by a separator. -/
def joined (separator : List Char) : List (List Char) → List Char
  | [] => []
  | [part] => part
  | part :: next :: rest => part ++ separator ++ joined separator (next :: rest)

mutual

/-- A value in the given layout. Dates, bytes and sets have no form in JSON; a pair is written as a
list of two. -/
def writeChars (layout : Layout) : Value → Outcome (List Char)
  | .null => Except.ok "null".toList
  | .bool b => Except.ok (if b then "true".toList else "false".toList)
  | .int n => intChars n
  | .decimal d => decimalChars d
  | .binary x => Except.ok (binaryChars x)
  | .text s => Except.ok (stringChars s)
  | .moment _ => Outcome.defect .type
  | .bytes _ => Outcome.defect .type
  | .set _ => Outcome.defect .type
  | .pair first second => do
    let parts := [← writeChars layout first, ← writeChars layout second]
    return '[' :: joined layout.comma parts ++ [']']
  | .list items => do
    let parts ← writeItems layout items
    return '[' :: joined layout.comma parts ++ [']']
  | .object members => do
    let parts ← writeMembers layout members
    return '\x7b' :: joined layout.comma parts ++ ['\x7d']
  termination_by structural v => v

/-- The items of a list. -/
def writeItems (layout : Layout) : List Value → Outcome (List (List Char))
  | [] => Except.ok []
  | item :: rest => do
    let part ← writeChars layout item
    return part :: (← writeItems layout rest)
  termination_by structural items => items

/-- The members of an object. -/
def writeMembers (layout : Layout) : List (Key × Value) → Outcome (List (List Char))
  | [] => Except.ok []
  | (key, item) :: rest => do
    let name ← keyText key
    let part ← writeChars layout item
    return (stringChars name ++ layout.colon ++ part) :: (← writeMembers layout rest)
  termination_by structural members => members

end

/-- A value as JSON text. -/
def write (layout : Layout) (v : Value) : Outcome String :=
  (writeChars layout v).map String.ofList

end Stencil.Json
