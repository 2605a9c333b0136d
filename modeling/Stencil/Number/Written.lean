import Stencil.Number.Digits
import Stencil.Text.Blank
import Stencil.Text.Digit

/-!
# Numbers written in text

A written integer is an optional sign and a run of decimal digits, in which single underscores may
stand between digits. Blanks around it are skipped.

The unsigned part of another number is made of digits, of which some may stand after a point, and an
optional power of ten. What is read is kept exactly, as a coefficient and an exponent.
-/

namespace Stencil.Number

/-- The digit values of a run of digits in which single underscores may separate two digits. -/
def digitRun? : List Char → Option (List Nat)
  | [] => none
  | c :: rest =>
    match Text.digitValue? c with
    | none => none
    | some d =>
      match rest with
      | [] => some [d]
      | '_' :: next => (digitRun? next).map (d :: ·)
      | next => (digitRun? next).map (d :: ·)

/-- The blanks a number may stand between: of the ASCII characters only the plain blanks, not the
separators of records and fields, and every blank of the other scripts. -/
def isMargin (c : Char) : Bool :=
  Text.isPlainBlank c || (decide (128 ≤ c.toNat) && Text.isBlank c)

/-- The blanks around a number are blanks. -/
theorem isBlank_of_isMargin {c : Char} (h : isMargin c) : Text.isBlank c := by
  simp only [isMargin, Bool.or_eq_true, Bool.and_eq_true] at h
  rcases h with plain | ⟨-, blank⟩
  · exact Text.isBlank_of_isPlainBlank c plain
  · exact blank

/-- A number's text without the blanks around it. -/
def withoutMargins (cs : List Char) : List Char :=
  ((cs.dropWhile isMargin).reverse.dropWhile isMargin).reverse

/-- The sign of a number and what follows it. -/
def splitSign : List Char → Bool × List Char
  | '-' :: rest => (true, rest)
  | '+' :: rest => (false, rest)
  | rest => (false, rest)

/-- A text that starts with a digit carries no sign. -/
theorem splitSign_of_isDigit {c : Char} (rest : List Char) (h : c.isDigit) :
    splitSign (c :: rest) = (false, c :: rest) := by
  unfold splitSign
  split
  · next heq =>
    obtain ⟨rfl, rfl⟩ := List.cons.inj heq
    simp at h
  · next heq =>
    obtain ⟨rfl, rfl⟩ := List.cons.inj heq
    simp at h
  · rfl

/-- The integer that a text spells, if it spells one of at most `digitLimit` digits. -/
def readInteger? (cs : List Char) : Option Int :=
  let (negative, body) := splitSign (withoutMargins cs)
  match digitRun? body with
  | none => none
  | some ds =>
    if digitLimit < ds.length then none
    else some (if negative then -(ofDigitValues ds : Int) else ofDigitValues ds)

/-- A number `coefficient · 10 ^ exponent` as it was written. -/
structure Scientific where
  /-- All the digits, read as one number. -/
  coefficient : Nat
  /-- The power of ten of the last digit. -/
  exponent : Int
  deriving DecidableEq, Repr

/-- The digits at the start of a text, by their values, and what follows them. -/
def spanDigits : List Char → List Nat × List Char
  | [] => ([], [])
  | c :: rest =>
    if c.isDigit then
      let (ds, after) := spanDigits rest
      ((c.toNat - 48) :: ds, after)
    else ([], c :: rest)

/-- The exponent that ends a number: `e` or `E`, an optional sign, and digits. -/
def readExponent? : List Char → Option Int
  | [] => some 0
  | c :: rest =>
    if c = 'e' || c = 'E' then
      let (negative, body) := splitSign rest
      match spanDigits body with
      | ([], _) => none
      | (ds, []) => some (if negative then -(ofDigitValues ds : Int) else ofDigitValues ds)
      | (_, _ :: _) => none
    else none

/-- The unsigned number that a text spells. -/
def readScientific? (cs : List Char) : Option Scientific :=
  let (whole, rest) := spanDigits cs
  let (fraction, rest) := match rest with
    | '.' :: more => spanDigits more
    | _ => ([], rest)
  if whole.isEmpty && fraction.isEmpty then none
  else
    (readExponent? rest).map fun exponent =>
      ⟨ofDigitValues (whole ++ fraction), exponent - fraction.length⟩

/-- The ASCII spelling of a character of a number; a digit of any script becomes an ASCII digit. -/
def asciiDigit? (c : Char) : Option Char :=
  if c.toNat < 128 then some c
  else (Text.digitValue? c).map fun d => Char.ofNat (48 + d)

end Stencil.Number
