import Stencil.Binary64.Text
import Stencil.Decimal.Text
import Stencil.Text.Quoted
import Stencil.Value.Basic

/-!
# Literals of values

Messages show a value as a literal, in which texts stand between quotes and decimal numbers are
told apart from binary ones. Header values and names that are no texts are shown by their plain
text, which is the literal without the quotes.
-/

namespace Stencil

/-- The literal of a decimal number. -/
def Decimal.literal (d : Decimal) : List Char :=
  "Decimal(".toList ++ (Text.quote d.text).toList ++ [')']

/-- The word for a truth value in a literal. -/
def boolLiteral (b : Bool) : List Char := if b then "True".toList else "False".toList

/-- How a byte is written in a literal between the given quotes: all but plain characters are
escapes. -/
def byteLiteral (quote : Char) (b : UInt8) : List Char :=
  if b.toNat < 128 then Text.quoteChar quote (Char.ofNat b.toNat)
  else '\\' :: 'x' :: Text.hexDigits 2 b.toNat

/-- The literal of bytes. -/
def bytesLiteral (bs : List UInt8) : List Char :=
  let quote := Text.quoteOf (bs.map fun b => Char.ofNat b.toNat)
  'b' :: quote :: bs.flatMap (byteLiteral quote) ++ [quote]

/-- The literal of a key. -/
def Key.literal : Key → List Char
  | .text s => (Text.quote s).toList
  | .null => "None".toList
  | .bool b => boolLiteral b
  | .int n => Number.intText n
  | .binary x => x.chars
  | .moment m => m.literal
  | .bytes bs => bytesLiteral bs

/-- The plain text of a key. -/
def Key.plain : Key → String
  | .text s => s
  | .moment m => String.ofList m.chars
  | key => String.ofList key.literal

/-- Parts separated by a comma and a space. -/
def commaJoin : List (List Char) → List Char
  | [] => []
  | [part] => part
  | part :: next :: rest => part ++ ',' :: ' ' :: commaJoin (next :: rest)

namespace Value

mutual

/-- The literal of a value. -/
def literalChars : Value → List Char
  | .null => "None".toList
  | .bool b => boolLiteral b
  | .int n => Number.intText n
  | .decimal d => d.literal
  | .binary x => x.chars
  | .text s => (Text.quote s).toList
  | .moment m => m.literal
  | .bytes bs => bytesLiteral bs
  | .set [] => "set()".toList
  | .set keys => '\x7b' :: commaJoin (keys.map Key.literal) ++ ['\x7d']
  | .pair first second =>
    '(' :: commaJoin [literalChars first, literalChars second] ++ [')']
  | .list items => '[' :: commaJoin (itemLiterals items) ++ [']']
  | .object members => '\x7b' :: commaJoin (memberLiterals members) ++ ['\x7d']
  termination_by structural v => v

/-- The literals of a list's items. -/
def itemLiterals : List Value → List (List Char)
  | [] => []
  | item :: rest => literalChars item :: itemLiterals rest
  termination_by structural items => items

/-- The literals of an object's members. -/
def memberLiterals : List (Key × Value) → List (List Char)
  | [] => []
  | (key, item) :: rest => (key.literal ++ ':' :: ' ' :: literalChars item) :: memberLiterals rest
  termination_by structural members => members

end

/-- The literal of a value as a string. -/
def literal (v : Value) : String := String.ofList (literalChars v)

/-- The plain text of a value. -/
def plain : Value → String
  | .text s => s
  | .decimal d => d.text
  | .moment m => String.ofList m.chars
  | v => literal v

/-- Whether a key is an integer too long to be written. -/
def keyIsLong : Key → Bool
  | .int n => Number.isLong n
  | _ => false

mutual

/-- Whether a value holds an integer too long to be written. -/
def holdsLong : Value → Bool
  | .int n => Number.isLong n
  | .set keys => keys.any keyIsLong
  | .pair first second => holdsLong first || holdsLong second
  | .list items => anyLong items
  | .object members => anyMemberLong members
  | _ => false
  termination_by structural v => v

/-- Whether one of the items holds an integer too long to be written. -/
def anyLong : List Value → Bool
  | [] => false
  | item :: rest => holdsLong item || anyLong rest
  termination_by structural items => items

/-- Whether one of the members holds an integer too long to be written. -/
def anyMemberLong : List (Key × Value) → Bool
  | [] => false
  | (key, item) :: rest => keyIsLong key || holdsLong item || anyMemberLong rest
  termination_by structural members => members

end

end Value

end Stencil
