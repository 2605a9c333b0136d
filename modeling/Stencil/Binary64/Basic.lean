import Stencil.Number.Rounding
import Stencil.Number.Written

/-!
# Binary floating-point numbers

The numbers of 53 significant binary digits that a document may hold when its fractions are not
kept exactly. A finite number is a significand times a power of two; every result is the exact one
rounded to a nearest number, a half going to the even significand.
-/

namespace Stencil

/-- A double-precision binary number. -/
inductive Binary64 where
  /-- The number `± significand · 2 ^ exponent`, with a significand below `2 ^ 53` that is at
  least `2 ^ 52` unless the exponent is the least one, `-1074`. -/
  | finite (negative : Bool) (significand : Nat) (exponent : Int)
  /-- A positive or negative infinity. -/
  | infinite (negative : Bool)
  /-- The undefined number. -/
  | undefined
  deriving DecidableEq, Repr, Inhabited

namespace Binary64

/-- The least exponent. -/
def minExponent : Int := -1074

/-- The greatest exponent. -/
def maxExponent : Int := 971

/-- Zero with its sign. -/
def zero (negative : Bool) : Binary64 := .finite negative 0 minExponent

/-- The exponent of the last binary digit that a positive ratio keeps. -/
def quantum (numerator denominator : Nat) : Int :=
  let guess : Int := (Nat.log2 numerator : Int) - Nat.log2 denominator
  let reached := denominator * Number.pow2 guess.toNat ≤ numerator * Number.pow2 (-guess).toNat
  max minExponent ((if reached then guess else guess - 1) - 52)

/-- The number nearest to a non-negative ratio, with the given sign. -/
def ofRatio (negative : Bool) (numerator denominator : Nat) : Binary64 :=
  if numerator = 0 then zero negative
  else
    let exponent := quantum numerator denominator
    let significand := Number.roundHalfEven (numerator * Number.pow2 (-exponent).toNat)
      (denominator * Number.pow2 exponent.toNat)
    let (significand, exponent) :=
      if significand = Number.pow2 53 then (Number.pow2 52, exponent + 1)
      else (significand, exponent)
    if maxExponent < exponent then .infinite negative else .finite negative significand exponent

/-- The number nearest to a signed ratio; a zero is positive. -/
def ofSignedRatio (numerator : Int) (denominator : Nat) : Binary64 :=
  ofRatio (decide (numerator < 0)) numerator.natAbs denominator

/-- The number nearest to a coefficient times a power of ten. Powers far out of range are decided
by the leading digit alone. -/
def ofScientific (negative : Bool) (n : Number.Scientific) : Binary64 :=
  if n.coefficient = 0 then zero negative
  else
    let leading := n.exponent + Number.digitCount n.coefficient - 1
    if 310 < leading then .infinite negative
    else if leading < -330 then zero negative
    else ofRatio negative (n.coefficient * Number.pow10 n.exponent.toNat)
      (Number.pow10 (-n.exponent).toNat)

/-- The number nearest to an integer. -/
def ofInt (n : Int) : Binary64 := ofSignedRatio n 1

/-- The magnitude of a finite number as a ratio. -/
def magnitude (significand : Nat) (exponent : Int) : Nat × Nat :=
  (significand * Number.pow2 exponent.toNat, Number.pow2 (-exponent).toNat)

/-- A finite number as a signed numerator and a denominator. -/
def ratio? : Binary64 → Option (Int × Nat)
  | .finite negative significand exponent =>
    let (numerator, denominator) := magnitude significand exponent
    some (if negative then -(numerator : Int) else numerator, denominator)
  | _ => none

/-- The denominator of a finite number is positive. -/
theorem magnitude_pos (significand : Nat) (exponent : Int) :
    0 < (magnitude significand exponent).2 := Number.pow2_pos _

/-- The order of two numbers; there is none for the undefined number. -/
def compare? (x y : Binary64) : Option Ordering :=
  match x, y with
  | .undefined, _ => none
  | _, .undefined => none
  | .infinite n, .infinite n' => some (compare n' n)
  | .infinite n, _ => some (if n then .lt else .gt)
  | _, .infinite n => some (if n then .gt else .lt)
  | .finite .., .finite .. =>
    match x.ratio?, y.ratio? with
    | some (a, b), some (c, d) => some (compare (a * d) (c * b))
    | _, _ => none

/-- Whether the first number is below the second. -/
def less (x y : Binary64) : Bool := compare? x y == some .lt

/-- Whether the number differs from zero; the undefined number does. -/
def nonzero : Binary64 → Bool
  | .finite _ significand _ => significand ≠ 0
  | _ => true

/-- The number with the opposite sign. -/
def neg : Binary64 → Binary64
  | .finite negative significand exponent => .finite (!negative) significand exponent
  | .infinite negative => .infinite (!negative)
  | .undefined => .undefined

/-- The sum of two numbers. -/
def add : Binary64 → Binary64 → Binary64
  | .undefined, _ => .undefined
  | _, .undefined => .undefined
  | .infinite n, .infinite n' => if n = n' then .infinite n else .undefined
  | .infinite n, .finite .. => .infinite n
  | .finite .., .infinite n => .infinite n
  | .finite n s e, .finite n' s' e' =>
    let (a, b) := magnitude s e
    let (c, d) := magnitude s' e'
    let x : Int := if n then -(a : Int) else a
    let y : Int := if n' then -(c : Int) else c
    let total := x * d + y * b
    if total = 0 then zero (n && n') else ofSignedRatio total (b * d)

/-- The difference of two numbers. -/
def sub (x y : Binary64) : Binary64 := add x (neg y)

/-- The product with a natural number. -/
def mulNat (x : Binary64) (factor : Nat) : Binary64 :=
  match x with
  | .finite n s e =>
    let (a, b) := magnitude s e
    ofRatio n (a * factor) b
  | .infinite n => if factor = 0 then .undefined else .infinite n
  | .undefined => .undefined

/-- The quotient by a positive natural number. -/
def divNat (x : Binary64) (divisor : Nat) : Binary64 :=
  match x with
  | .finite n s e =>
    let (a, b) := magnitude s e
    ofRatio n a (b * divisor)
  | .infinite n => .infinite n
  | .undefined => .undefined

/-- How many times a positive natural number fits into a finite number, and the exact rest. The
count comes from the rounded quotient of what is without rest, and is rounded to a nearby integer
itself. -/
def fits? (x : Binary64) (divisor : Nat) : Option (Int × Int × Nat) := do
  let (numerator, denominator) ← x.ratio?
  let rest := Int.fmod numerator (divisor * denominator)
  let (a, b) ← ((ofSignedRatio (numerator - rest) denominator).divNat divisor).ratio?
  let whole := Int.fdiv a b
  let count := if b < 2 * (a - whole * b) then whole + 1 else whole
  return (count, rest, denominator)

/-- The integer part of a finite number. -/
def truncate? (x : Binary64) : Option Int := x.ratio?.map fun (a, b) => Int.tdiv a b

end Binary64

end Stencil
