import Stencil.Number.Digits

/-!
# Decimal numbers

A decimal number is a sign, a coefficient and a power of ten. The exponent is part of the datum:
`1.50` and `1.5` are different numbers of equal value. Beside the finite numbers there are two
infinities and the undefined results, which may carry digits of their own.
-/

namespace Stencil

/-- A decimal number of any length. -/
inductive Decimal where
  /-- The number `± coefficient · 10 ^ exponent`; the sign of a zero is kept. -/
  | finite (negative : Bool) (coefficient : Nat) (exponent : Int)
  /-- A positive or negative infinity. -/
  | infinite (negative : Bool)
  /-- An undefined result; a signaling one is refused by every operation. -/
  | undefined (negative signaling : Bool) (payload : Nat)
  deriving DecidableEq, Repr, Inhabited

namespace Decimal

/-- The integer as a decimal number with exponent zero. -/
def ofInt (n : Int) : Decimal := .finite (decide (n < 0)) n.natAbs 0

/-- The decimal number zero. -/
def zero : Decimal := .finite false 0 0

/-- A number that is neither infinite nor undefined. -/
def isFinite : Decimal → Bool
  | .finite .. => true
  | _ => false

/-- The exponent of a number's leading digit. -/
def leadingExponent (coefficient : Nat) (exponent : Int) : Int :=
  exponent + Number.digitCount coefficient - 1

/-- The signed coefficient of a finite number. -/
def signed (negative : Bool) (coefficient : Nat) : Int :=
  if negative then -(coefficient : Int) else coefficient

/-- An integer keeps its value as signed coefficient. -/
theorem signed_ofInt (n : Int) : signed (decide (n < 0)) n.natAbs = n := by
  unfold signed
  by_cases h : n < 0
  · rw [if_pos (decide_eq_true h)]
    omega
  · rw [if_neg (by simpa using h)]
    omega

end Decimal

end Stencil
