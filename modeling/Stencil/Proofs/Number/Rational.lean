import Mathlib.Algebra.Order.Field.Power
import Mathlib.Data.Rat.Floor
import Mathlib.Tactic.FieldSimp
import Mathlib.Tactic.Linarith
import Mathlib.Tactic.NormNum
import Mathlib.Tactic.Positivity
import Mathlib.Tactic.Ring
import Stencil.Number.Rounding
import Stencil.Proofs.Number.Numeral

/-!
# Digits, powers and rounding among the rational numbers

What the powers of the number base, the count of digits and a rounded quotient are as rational
numbers, and when a rational number lies between two ends.
-/

namespace Stencil

/-- Whether a number lies between two ends, which belong or do not. -/
def IsBetween (closed : Bool) (low high x : ℚ) : Prop :=
  if closed then low ≤ x ∧ x ≤ high else low < x ∧ x < high

namespace IsBetween

variable {closed : Bool} {low high x y z : ℚ}

/-- What lies between ends is not beyond them. -/
theorem bounds (h : IsBetween closed low high x) : low ≤ x ∧ x ≤ high := by
  cases closed with
  | true => exact h
  | false => exact ⟨le_of_lt h.1, le_of_lt h.2⟩

/-- What lies strictly between the ends does so whether they belong or not. -/
theorem of_lt (above : low < x) (below : x < high) : IsBetween closed low high x := by
  cases closed with
  | true => exact ⟨le_of_lt above, le_of_lt below⟩
  | false => exact ⟨above, below⟩

/-- Whatever lies between two such numbers lies between the ends. -/
theorem convex (first : IsBetween closed low high x) (last : IsBetween closed low high y)
    (above : x ≤ z) (below : z ≤ y) : IsBetween closed low high z := by
  cases closed with
  | true => exact ⟨le_trans first.1 above, le_trans below last.2⟩
  | false => exact ⟨lt_of_lt_of_le first.1 above, lt_of_le_of_lt below last.2⟩

/-- Ends and number may be multiplied by the same positive factor. -/
theorem mul_iff {factor : ℚ} (positive : 0 < factor) :
    IsBetween closed (low * factor) (high * factor) (x * factor) ↔
      IsBetween closed low high x := by
  cases closed with
  | true => exact and_congr (mul_le_mul_iff_left₀ positive) (mul_le_mul_iff_left₀ positive)
  | false => exact and_congr (mul_lt_mul_iff_left₀ positive) (mul_lt_mul_iff_left₀ positive)

end IsBetween

namespace Number

/-- A power of two as a rational number. -/
theorem cast_pow2 (n : Nat) : (pow2 n : ℚ) = 2 ^ n := by
  rw [pow2, Nat.pow_eq, Nat.cast_pow]
  rfl

/-- A power of ten as a rational number. -/
theorem cast_pow10 (n : Nat) : (pow10 n : ℚ) = 10 ^ n := by
  rw [pow10, Nat.pow_eq, Nat.cast_pow]
  rfl

/-- A power is split into the part above the point and the part below. -/
theorem pow_toNat {base : ℚ} (h : base ≠ 0) (exponent : Int) :
    base ^ exponent.toNat = base ^ exponent * base ^ (-exponent).toNat := by
  rw [← zpow_natCast, ← zpow_natCast, ← zpow_add₀ h]
  congr 1
  omega

/-- A positive number lies between the powers of ten that its digits count. -/
theorem digitCount_bounds {n : Nat} (positive : 0 < n) :
    (10 : ℚ) ^ ((digitCount n : Int) - 1) ≤ n ∧
      ((n + 1 : Nat) : ℚ) ≤ 10 ^ (digitCount n : Int) := by
  have count_pos : 0 < digitCount n := Nat.length_toDigits_pos
  have above : n + 1 ≤ pow10 (digitCount n) := (digitCount_le_iff count_pos).mp (le_refl _)
  have below : pow10 (digitCount n - 1) ≤ n := by
    by_cases single : digitCount n = 1
    · rw [single]
      exact positive
    · by_contra less
      have := (digitCount_le_iff (by omega)).mpr (Nat.lt_of_not_le less)
      omega
  have count : (digitCount n : Int) - 1 = ((digitCount n - 1 : Nat) : Int) := by omega
  rw [count, zpow_natCast, zpow_natCast, ← cast_pow10, ← cast_pow10]
  exact ⟨Nat.cast_le.mpr below, Nat.cast_le.mpr above⟩

/-- A fraction is its whole part and what remains. -/
theorem cast_div_add_mod (n : Nat) {d : Nat} (positive : 0 < d) :
    (n : ℚ) / d = (n / d : Nat) + (n % d : Nat) / d := by
  have positive' : (0 : ℚ) < d := Nat.cast_pos.mpr positive
  have whole : (n : ℚ) = d * (n / d : Nat) + (n % d : Nat) := by
    exact_mod_cast (Nat.div_add_mod n d).symm
  nth_rewrite 1 [whole]
  field_simp

/-- A quotient is rounded to within half a unit, and this far only to an even number. -/
theorem isBetween_roundHalfEven (n : Nat) {d : Nat} (positive : 0 < d) :
    IsBetween (decide (roundHalfEven n d % 2 = 0)) (roundHalfEven n d - 1 / 2)
      (roundHalfEven n d + 1 / 2) ((n : ℚ) / d) := by
  have positive' : (0 : ℚ) < d := Nat.cast_pos.mpr positive
  have rest : 0 ≤ ((n % d : Nat) : ℚ) / d := by positivity
  have below : ((n % d : Nat) : ℚ) / d < 1 := by
    rw [div_lt_one positive']
    exact_mod_cast Nat.mod_lt n positive
  have less (h : 2 * (n % d) < d) : ((n % d : Nat) : ℚ) / d < 1 / 2 := by
    rw [div_lt_iff₀ positive']
    have h : 2 * ((n % d : Nat) : ℚ) < d := by exact_mod_cast h
    linarith
  have more (h : d < 2 * (n % d)) : 1 / 2 < ((n % d : Nat) : ℚ) / d := by
    rw [lt_div_iff₀ positive']
    have h : (d : ℚ) < 2 * ((n % d : Nat) : ℚ) := by exact_mod_cast h
    linarith
  rw [cast_div_add_mod n positive]
  unfold roundHalfEven
  dsimp only
  split
  · next low =>
    have := less low
    exact .of_lt (by linarith) (by linarith)
  split
  · next high =>
    have := more high
    push_cast
    exact .of_lt (by linarith) (by linarith)
  · next notLow notHigh =>
    -- halfway between two whole numbers
    have half : ((n % d : Nat) : ℚ) / d = 1 / 2 := by
      have same : 2 * (n % d) = d := by omega
      have same : 2 * ((n % d : Nat) : ℚ) = d := by exact_mod_cast same
      rw [div_eq_iff (ne_of_gt positive')]
      linarith
    rw [half]
    split
    · next even =>
      rw [decide_eq_true even]
      exact ⟨by linarith, by linarith⟩
    · next odd =>
      have even : (n / d + 1) % 2 = 0 := by omega
      rw [decide_eq_true even]
      push_cast
      exact ⟨by linarith, by linarith⟩

end Number

end Stencil
