import Stencil.Binary64.Basic
import Stencil.Text.Blank

/-!
# Binary numbers in text

A binary number is written with the fewest decimal digits that read back as that number; among
those, the decimal nearest to it. The decimals that read back form an interval around the number,
whose ends belong to it exactly when the significand is even. For each count of digits only the
number's two neighbours on the grid of decimals of that many digits need to be tried.

A number from `0.0001` up to below `10 ^ 16` is written with a point and at least one digit after
it; every other number is written with an exponent of at least two digits.
-/

namespace Stencil.Binary64

/-- The decimals that read back as a positive number, over a common denominator: the number
itself, the lower end and the upper end, and whether the ends belong. -/
structure Interval where
  /-- The numerator of the number. -/
  centre : Nat
  /-- The numerator of the lower end. -/
  low : Nat
  /-- The numerator of the upper end. -/
  high : Nat
  /-- The denominator of all three. -/
  denominator : Nat
  /-- Whether the ends read back as the number. -/
  closed : Bool

/-- The interval of a positive number. Below a power of two the numbers lie twice as close. -/
def interval (significand : Nat) (exponent : Int) : Interval :=
  let (numerator, denominator) := magnitude significand exponent
  let step := Number.pow2 exponent.toNat
  let narrow := significand = Number.pow2 52 && decide (minExponent < exponent)
  { centre := 4 * numerator
    low := 4 * numerator - (if narrow then step else 2 * step)
    high := 4 * numerator + 2 * step
    denominator := 4 * denominator
    closed := significand % 2 = 0 }

/-- Whether a ratio lies in the interval. -/
def Interval.contains (i : Interval) (numerator denominator : Nat) : Bool :=
  let value := numerator * i.denominator
  if i.closed then
    decide (i.low * denominator ≤ value) && decide (value ≤ i.high * denominator)
  else
    decide (i.low * denominator < value) && decide (value < i.high * denominator)

/-- The exponent of the leading decimal digit of a positive number. -/
def leadingDigit (i : Interval) : Int :=
  (Number.digitCount (i.centre * Number.pow10 400 / i.denominator) : Int) - 401

/-- The decimal nearest to the number among its two neighbours at the given power of ten that read
back. -/
def nearestOnGrid? (i : Interval) (power : Int) : Option Nat :=
  let scale := Number.pow10 power.toNat
  let unit := Number.pow10 (-power).toNat
  let below := i.centre * unit / (i.denominator * scale)
  let inside := fun n => n ≠ 0 && i.contains (n * scale) unit
  let above := below + 1
  let downward := 2 * (i.centre * unit - below * i.denominator * scale)
  match inside below, inside above with
  | true, true =>
    if downward < i.denominator * scale then some below
    else if i.denominator * scale < downward then some above
    else if below % 2 = 0 then some below else some above
  | true, false => some below
  | false, true => some above
  | false, false => none

/-- The shortest decimal, trying grids from the coarsest on. -/
def searchGrid : Nat → Interval → Int → Nat × Int
  | 0, i, power =>
    (i.centre * Number.pow10 (-power).toNat / (i.denominator * Number.pow10 power.toNat), power)
  | tries + 1, i, power =>
    match nearestOnGrid? i power with
    | some n => (n, power)
    | none => searchGrid tries i (power - 1)

/-- The shortest decimal `n · 10 ^ power` of a positive number, as `n` and `power`. -/
def shortest (significand : Nat) (exponent : Int) : Nat × Int :=
  let i := interval significand exponent
  searchGrid 17 i (leadingDigit i)

/-- The smallest place of the first digit, counted from the point, that is written without an
exponent. -/
def minPlace : Int := -3

/-- The largest place of the first digit, counted from the point, that is written without an
exponent. -/
def maxPlace : Int := 16

/-- Digits whose point stands after the first `place` of them. -/
def positional (ds : List Char) (place : Int) : List Char :=
  if place ≤ 0 then '0' :: '.' :: List.replicate (-place).toNat '0' ++ ds
  else if (ds.length : Int) ≤ place then
    ds ++ List.replicate (place - ds.length).toNat '0' ++ ['.', '0']
  else ds.take place.toNat ++ '.' :: ds.drop place.toNat

/-- Digits with a point after the first and an exponent. -/
def exponential (ds : List Char) (exponent : Int) : List Char :=
  let mantissa := match ds with
    | first :: second :: rest => first :: '.' :: second :: rest
    | short => short
  mantissa ++ 'e' :: (if exponent < 0 then '-' else '+') :: Number.padded 2 exponent.natAbs

/-- The text of a finite magnitude. -/
def magnitudeText (significand : Nat) (exponent : Int) : List Char :=
  if significand = 0 then ['0', '.', '0']
  else
    let (n, power) := shortest significand exponent
    let ds := Number.digits n
    let place := power + ds.length
    let kept := (ds.reverse.dropWhile (· = '0')).reverse
    if minPlace ≤ place && decide (place ≤ maxPlace) then positional kept place
    else exponential kept (place - 1)

/-- The text of a number. -/
def chars : Binary64 → List Char
  | .finite negative significand exponent =>
    (if negative then ['-'] else []) ++ magnitudeText significand exponent
  | .infinite negative => (if negative then ['-'] else []) ++ ['i', 'n', 'f']
  | .undefined => ['n', 'a', 'n']

/-- The text of a number as a string. -/
def text (x : Binary64) : String := String.ofList x.chars

/-- The text of a number with a fixed count of digits after the point; a half goes to the even
neighbour. -/
def fixed (places : Nat) : Binary64 → List Char
  | .finite negative significand exponent =>
    let (numerator, denominator) := magnitude significand exponent
    let scaled := Number.roundHalfEven (numerator * Number.pow10 places) denominator
    let ds := Number.padded (places + 1) scaled
    let whole := ds.take (ds.length - places)
    (if negative then ['-'] else []) ++ whole ++
      (if places = 0 then [] else '.' :: ds.drop (ds.length - places))
  | .infinite negative => (if negative then ['-'] else []) ++ ['i', 'n', 'f']
  | .undefined => ['n', 'a', 'n']

/-- A text without its underscores, if each stands between two digits. -/
def joinDigits? : Char → List Char → Option (List Char)
  | previous, [] => if previous = '_' then none else some []
  | previous, c :: rest =>
    if c = '_' then
      if previous.isDigit then joinDigits? c rest else none
    else if previous = '_' && !c.isDigit then none
    else (joinDigits? c rest).map (c :: ·)

/-- The number that follows the sign. -/
def readUnsigned? (negative : Bool) (cs : List Char) : Option Binary64 :=
  match cs.map Char.toLower with
  | ['i', 'n', 'f'] => some (.infinite negative)
  | ['i', 'n', 'f', 'i', 'n', 'i', 't', 'y'] => some (.infinite negative)
  | ['n', 'a', 'n'] => some .undefined
  | _ => (Number.readScientific? cs).map (ofScientific negative)

/-- The number that a text spells, blanks around it being skipped. -/
def read? (cs : List Char) : Option Binary64 := do
  let plain ← (Number.withoutMargins cs).mapM Number.asciiDigit?
  let (negative, body) := Number.splitSign (← joinDigits? ' ' plain)
  readUnsigned? negative body

end Stencil.Binary64
