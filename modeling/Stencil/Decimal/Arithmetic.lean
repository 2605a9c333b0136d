import Stencil.Decimal.Basic
import Stencil.Number.Rounding

/-!
# Decimal arithmetic

Sums and quotients keep 28 significant digits, a half going to the even neighbour, and exponents
of leading digits stay between -999999 and 999999. Comparison and rounding to an integer are exact
at any length.
-/

namespace Stencil.Decimal

/-- Why an operation has no result. -/
inductive Trap where
  /-- The operation is not defined for its operands. -/
  | invalidOperation
  /-- The result is too large. -/
  | overflow
  deriving DecidableEq, Repr

/-- How many significant digits a result keeps. -/
def precision : Nat := 28

/-- The largest exponent that the leading digit of a result may have. -/
def maxExponent : Int := 999999

/-- The smallest exponent that the leading digit of a result of full precision may have. -/
def minExponent : Int := -999999

/-- The smallest exponent of a result. -/
def minQuantum : Int := minExponent - (precision - 1)

/-- The coefficient without its last `count` digits, rounded. A shift past every digit leaves
nothing. -/
def dropDigits (coefficient : Nat) (count : Int) : Nat :=
  if (Number.digitCount coefficient : Int) < count then 0
  else Number.roundHalfEven coefficient (Number.pow10 count.toNat)

/-- A result rounded to the precision and range of the arithmetic. -/
def settle (negative : Bool) (coefficient : Nat) (exponent : Int) : Except Trap Decimal :=
  if coefficient = 0 then
    .ok (.finite negative 0 (max minQuantum (min exponent maxExponent)))
  else
    let leading := leadingExponent coefficient exponent
    if maxExponent < leading then .error .overflow
    else if leading < minExponent then
      if exponent < minQuantum then
        .ok (.finite negative (dropDigits coefficient (minQuantum - exponent)) minQuantum)
      else .ok (.finite negative coefficient exponent)
    else if Number.digitCount coefficient ≤ precision then
      .ok (.finite negative coefficient exponent)
    else
      let excess := Number.digitCount coefficient - precision
      let rounded := dropDigits coefficient excess
      if rounded = Number.pow10 precision then
        if maxExponent < leading + 1 then .error .overflow
        else .ok (.finite negative (Number.pow10 (precision - 1)) (exponent + excess + 1))
      else .ok (.finite negative rounded (exponent + excess))

/-- A result within precision and range is kept. -/
theorem settle_of_fits {negative : Bool} {coefficient : Nat} {exponent : Int}
    (nonzero : coefficient ≠ 0) (short : Number.digitCount coefficient ≤ precision)
    (low : minExponent ≤ leadingExponent coefficient exponent)
    (high : leadingExponent coefficient exponent ≤ maxExponent) :
    settle negative coefficient exponent = .ok (.finite negative coefficient exponent) := by
  simp [settle, nonzero, short, Int.not_lt.mpr low, Int.not_lt.mpr high]

/-- An undefined operand as the result of an operation; its payload is cut to the precision. -/
def quiet (negative : Bool) (payload : Nat) : Decimal :=
  .undefined negative false (payload % Number.pow10 precision)

/-- The operand of lower exponent, replaced by one unit of a far lower place when it lies so far
below the other operand that only its sign can matter to the rounded sum. -/
def condense (highCoefficient : Nat) (highExponent : Int) (coefficient : Nat) (exponent : Int) :
    Nat × Int :=
  let count := Number.digitCount highCoefficient
  let floor := highExponent - 1 +
    (if precision < count then 0 else (count : Int) - precision - 1)
  if highCoefficient ≠ 0 ∧ leadingExponent coefficient exponent < floor then
    (if coefficient = 0 then 0 else 1, floor)
  else (coefficient, exponent)

/-- The exact sum of two finite numbers, the first of which has the higher exponent. -/
def addAligned (negative : Bool) (coefficient : Nat) (exponent : Int)
    (negative' : Bool) (coefficient' : Nat) (exponent' : Int) : Except Trap Decimal :=
  let (low, quantum) := condense coefficient exponent coefficient' exponent'
  let high := if coefficient = 0 then 0 else coefficient * Number.pow10 (exponent - quantum).toNat
  if negative = negative' then settle negative (high + low) quantum
  else
    let total := signed negative high + signed negative' low
    settle (decide (total < 0)) total.natAbs quantum

/-- The sum of two decimal numbers. -/
def add : Decimal → Decimal → Except Trap Decimal
  | .undefined _ true _, _ => .error .invalidOperation
  | _, .undefined _ true _ => .error .invalidOperation
  | .undefined negative false payload, _ => .ok (quiet negative payload)
  | _, .undefined negative false payload => .ok (quiet negative payload)
  | .infinite negative, .infinite negative' =>
    if negative = negative' then .ok (.infinite negative) else .error .invalidOperation
  | .infinite negative, .finite .. => .ok (.infinite negative)
  | .finite .., .infinite negative => .ok (.infinite negative)
  | .finite n c e, .finite n' c' e' =>
    if e' ≤ e then addAligned n c e n' c' e' else addAligned n' c' e' n c e

/-- The coefficient and exponent without trailing zeros, as far as the exponent stays at most
`ideal`. -/
def dropZeros : Nat → Nat → Int → Int → Nat × Int
  | 0, coefficient, exponent, _ => (coefficient, exponent)
  | fuel + 1, coefficient, exponent, ideal =>
    if coefficient % 10 = 0 ∧ exponent < ideal then
      dropZeros fuel (coefficient / 10) (exponent + 1) ideal
    else (coefficient, exponent)

/-- The quotient of a decimal number by a positive natural number. -/
def divNat (d : Decimal) (divisor : Nat) : Except Trap Decimal :=
  match d with
  | .undefined _ true _ => .error .invalidOperation
  | .undefined negative false payload => .ok (quiet negative payload)
  | .infinite negative => .ok (.infinite negative)
  | .finite negative coefficient exponent =>
    if coefficient = 0 then settle negative 0 exponent
    else
      let shift : Int :=
        (Number.digitCount divisor : Int) - Number.digitCount coefficient + precision + 1
      let numerator := coefficient * Number.pow10 shift.toNat
      let denominator := divisor * Number.pow10 (-shift).toNat
      let quotient := numerator / denominator
      if numerator % denominator = 0 then
        let (c, e) := dropZeros (Number.digitCount quotient) quotient (exponent - shift) exponent
        settle negative c e
      else
        let sticky := if quotient % 5 = 0 then quotient + 1 else quotient
        settle negative sticky (exponent - shift)

/-- The order of two finite numbers of the same sign by their magnitudes. -/
def compareMagnitude (coefficient : Nat) (exponent : Int) (coefficient' : Nat) (exponent' : Int) :
    Ordering :=
  if coefficient = 0 ∨ coefficient' = 0 then compare coefficient coefficient'
  else
    let leading := leadingExponent coefficient exponent
    let leading' := leadingExponent coefficient' exponent'
    if leading ≠ leading' then compare leading leading'
    else
      compare (coefficient * Number.pow10 (exponent - exponent').toNat)
        (coefficient' * Number.pow10 (exponent' - exponent).toNat)

/-- The order of two numbers; there is none for an undefined one. -/
def compare? : Decimal → Decimal → Option Ordering
  | .undefined .., _ => none
  | _, .undefined .. => none
  | .infinite n, .infinite n' => some (compare n' n)
  | .infinite n, .finite .. => some (if n then .lt else .gt)
  | .finite .., .infinite n => some (if n then .gt else .lt)
  | .finite n c e, .finite n' c' e' =>
    if c = 0 ∧ c' = 0 then some .eq
    else if c = 0 then some (if n' then .gt else .lt)
    else if c' = 0 then some (if n then .lt else .gt)
    else if n ≠ n' then some (if n then .lt else .gt)
    else if n then some (compareMagnitude c' e' c e)
    else some (compareMagnitude c e c' e')

/-- Whether the first number is below the second. -/
def less (a b : Decimal) : Except Trap Bool :=
  match compare? a b with
  | none => .error .invalidOperation
  | some order => .ok (order == .lt)

/-- Whether a number differs from zero; an undefined one does, unless it is signaling. -/
def nonzero : Decimal → Except Trap Bool
  | .finite _ coefficient _ => .ok (coefficient ≠ 0)
  | .infinite _ => .ok true
  | .undefined _ signaling _ => if signaling then .error .invalidOperation else .ok true

/-- The magnitude rounded to a whole number, a half going away from zero. -/
def wholeMagnitude (coefficient : Nat) (exponent : Int) : Nat :=
  if 0 ≤ exponent then coefficient * Number.pow10 exponent.toNat
  else if (Number.digitCount coefficient : Int) < -exponent then 0
  else Number.roundHalfUp coefficient (Number.pow10 (-exponent).toNat)

/-- The nearest integer to a finite number, a half going away from zero. -/
def nearestInt? : Decimal → Option Int
  | .finite negative coefficient exponent =>
    some (signed negative (wholeMagnitude coefficient exponent))
  | _ => none

/-- The integer part of a finite number. -/
def truncate? : Decimal → Option Int
  | .finite negative coefficient exponent =>
    some <| signed negative <|
      if 0 ≤ exponent then coefficient * Number.pow10 exponent.toNat
      else if (Number.digitCount coefficient : Int) ≤ -exponent then 0
      else coefficient / Number.pow10 (-exponent).toNat
  | _ => none

end Stencil.Decimal
