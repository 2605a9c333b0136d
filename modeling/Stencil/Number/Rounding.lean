/-!
# Rounding a quotient

The quotient of two natural numbers rounded to a nearest whole number. The two rules differ in
where a quotient halfway between two whole numbers goes.
-/

namespace Stencil.Number

/-- The nearest whole number to `n / d`; a half goes to the even neighbour. -/
def roundHalfEven (n d : Nat) : Nat :=
  let q := n / d
  let r := n % d
  if 2 * r < d then q
  else if d < 2 * r then q + 1
  else if q % 2 = 0 then q else q + 1

/-- The nearest whole number to `n / d`; a half goes up. -/
def roundHalfUp (n d : Nat) : Nat := if 2 * (n % d) < d then n / d else n / d + 1

/-- An exact quotient is kept by rounding half to even. -/
theorem roundHalfEven_mul (q : Nat) {d : Nat} (pos : 0 < d) : roundHalfEven (q * d) d = q := by
  simp [roundHalfEven, Nat.mul_div_cancel _ pos, pos]

/-- Rounding half up stays within half a unit. -/
theorem roundHalfUp_near (n : Nat) {d : Nat} (pos : 0 < d) :
    2 * n ≤ 2 * (roundHalfUp n d * d) + d ∧ 2 * (roundHalfUp n d * d) ≤ 2 * n + d := by
  have split := Nat.div_add_mod n d
  have small := Nat.mod_lt n pos
  have comm : n / d * d = d * (n / d) := Nat.mul_comm _ _
  unfold roundHalfUp
  split
  · omega
  · rw [Nat.add_mul, Nat.one_mul]
    omega

end Stencil.Number
