import Stencil.Decimal.Basic
import Stencil.Number.Written

/-!
# Decimal numbers in text

A number whose exponent is not positive and whose first digit stands at most six places after the
point is written with a point and no exponent; every other number is written with one digit before
the point and an exponent. Reading accepts both, in either case, with blanks around the number and
underscores anywhere in it.
-/

namespace Stencil.Decimal

/-- Digits with a point after the first `place` of them; zeros fill up in front. -/
def pointed (ds : List Char) (place : Int) : List Char :=
  if place ≤ 0 then '0' :: '.' :: List.replicate (-place).toNat '0' ++ ds
  else if (ds.length : Int) ≤ place then ds
  else ds.take place.toNat ++ '.' :: ds.drop place.toNat

/-- One digit before the point, and the exponent of that digit. -/
def scientific (ds : List Char) (exponent : Int) : List Char :=
  let mantissa := match ds with
    | first :: second :: rest => first :: '.' :: second :: rest
    | short => short
  mantissa ++ 'E' :: (if exponent < 0 then '-' else '+') :: Number.digits exponent.natAbs

/-- The digits of a non-negative finite number. -/
def magnitudeText (coefficient : Nat) (exponent : Int) : List Char :=
  let ds := Number.digits coefficient
  let place := exponent + ds.length
  if exponent ≤ 0 && decide (-6 < place) then pointed ds place else scientific ds (place - 1)

/-- A minus sign where one is due. -/
def signText (negative : Bool) : List Char := if negative then ['-'] else []

/-- The text of a decimal number. -/
def chars : Decimal → List Char
  | .finite negative coefficient exponent => signText negative ++ magnitudeText coefficient exponent
  | .infinite negative => signText negative ++ "Infinity".toList
  | .undefined negative signaling payload =>
    signText negative ++ (if signaling then ['s'] else []) ++ "NaN".toList ++
      (if payload = 0 then [] else Number.digits payload)

/-- The text of a decimal number as a string. -/
def text (d : Decimal) : String := String.ofList d.chars

/-- The largest exponent that a leading digit may have. -/
def exponentLimit : Int := 999999999999999999

/-- The smallest exponent that a number may have. -/
def quantumLimit : Int := -1999999999999999997

/-- The finite number of a sign and written digits, if its exponents are within the limits. -/
def ofScientific? (negative : Bool) (n : Number.Scientific) : Option Decimal :=
  if leadingExponent n.coefficient n.exponent ≤ exponentLimit &&
      decide (quantumLimit ≤ n.exponent) then
    some (.finite negative n.coefficient n.exponent)
  else none

/-- The digits that an undefined result carries. -/
def readPayload? (cs : List Char) : Option Nat :=
  match Number.spanDigits cs with
  | (ds, []) => some (Number.ofDigitValues ds)
  | (_, _ :: _) => none

/-- The number that follows the sign. -/
def readUnsigned? (negative : Bool) (cs : List Char) : Option Decimal :=
  match cs.map Char.toLower with
  | ['i', 'n', 'f'] => some (.infinite negative)
  | ['i', 'n', 'f', 'i', 'n', 'i', 't', 'y'] => some (.infinite negative)
  | 'n' :: 'a' :: 'n' :: payload => (readPayload? payload).map (.undefined negative false)
  | 's' :: 'n' :: 'a' :: 'n' :: payload => (readPayload? payload).map (.undefined negative true)
  | _ => (Number.readScientific? cs).bind (ofScientific? negative)

/-- The decimal number that a text spells. -/
def read? (cs : List Char) : Option Decimal := do
  let plain ← ((Text.trim cs).filter (· ≠ '_')).mapM Number.asciiDigit?
  let (negative, body) := Number.splitSign plain
  readUnsigned? negative body

end Stencil.Decimal
