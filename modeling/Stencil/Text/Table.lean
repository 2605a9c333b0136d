/-!
# Classes of characters and tables

A class of characters is a union of intervals of code points. It is stored as the increasing list
of the code points where membership changes, so a code point is inside exactly when an odd number
of boundaries lie at or below it.

Large classes and large mappings are kept as texts of hexadecimal numbers, which are read once. A
class is a row of code points and ranges, as in `2d 30-39 61-7a`; classes with numbers are rows as
in `300-314=e6 315=e8`; a mapping is a row of entries, as in `c4=41.308 c5=41.30a`.
-/

namespace Stencil.Text

/-- Whether a code point is inside the class with the given increasing boundaries. -/
def insideBounds : List Nat → Nat → Bool
  | [], _ => false
  | bound :: bounds, n => if n < bound then false else !insideBounds bounds n

/-- The words of a text, which blanks and line ends separate. -/
def words (text : String) : List (List Char) :=
  (text.toList.splitOnP fun c => c = ' ' || c = '\n').filter fun word => !word.isEmpty

/-- The value of a hexadecimal digit in lower case. -/
def hexadecimalDigit (c : Char) : Nat := if c.isDigit then c.toNat - 48 else c.toNat - 87

/-- The value of hexadecimal digits. -/
def hexNumber (cs : List Char) : Nat := cs.foldl (fun n c => n * 16 + hexadecimalDigit c) 0

/-- The two boundaries of a code point or a range. -/
def rangeBounds (word : List Char) : List Nat :=
  match word.splitOn '-' with
  | [first, last] => [hexNumber first, hexNumber last + 1]
  | _ => [hexNumber word, hexNumber word + 1]

/-- The boundaries of the class that a text lists in increasing order. -/
def boundsOf (text : String) : List Nat := (words text).flatMap rangeBounds

/-- The entry of a mapping: a code point and the code points that it is mapped to. -/
def entryOf (word : List Char) : Nat × List Nat :=
  match word.splitOn '=' with
  | [key, value] => (hexNumber key, (value.splitOn '.').map hexNumber)
  | _ => (hexNumber word, [])

/-- The mapping that a text lists. -/
def mappingOf (text : String) : List (Nat × List Nat) := (words text).map entryOf

/-- The entry of a class: the boundaries of a range and the number of its class. -/
def classOf (word : List Char) : List Nat × Nat :=
  match word.splitOn '=' with
  | [range, value] => (rangeBounds range, hexNumber value)
  | _ => (rangeBounds word, 0)

/-- The ranges and their classes that a text lists. -/
def classesOf (text : String) : List (List Nat × Nat) := (words text).map classOf

end Stencil.Text
