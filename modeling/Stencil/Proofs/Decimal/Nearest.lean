import Stencil.Cast
import Stencil.Proofs.Decimal.Finite
import Stencil.Proofs.Decimal.Value

/-!
# Rounding decimal numbers to integers

The integer of a finite decimal number is the one nearest to its value, a half going away from
zero. This holds for any number of digits and any exponent. Rounding keeps the order and the sign,
and leaves whole numbers as they are.
-/

namespace Stencil.Decimal

open Number

/-- An integer is nearest to a number: at most a half away, and this far only if it is further from
zero than the number. -/
structure IsNearest (x : ℚ) (n : ℤ) : Prop where
  /-- It is at most a half away. -/
  close : |(n : ℚ) - x| ≤ 1 / 2
  /-- A half goes away from zero. -/
  away : |(n : ℚ) - x| = 1 / 2 → |x| < |(n : ℚ)|

namespace IsNearest

variable {x y : ℚ} {m n : ℤ}

/-- The opposite of the nearest integer is nearest to the opposite number. -/
theorem neg (nearest : IsNearest x n) : IsNearest (-x) (-n) := by
  have same : |((-n : ℤ) : ℚ) - -x| = |(n : ℚ) - x| := by
    rw [Int.cast_neg, neg_sub_neg, abs_sub_comm]
  constructor
  · rw [same]
    exact nearest.close
  · rw [same, Int.cast_neg, abs_neg, abs_neg]
    exact nearest.away

/-- Nearest integers are ordered as the numbers are. -/
theorem mono (first : IsNearest x m) (second : IsNearest y n) (le : x ≤ y) : m ≤ n := by
  by_contra above
  obtain ⟨-, low⟩ := abs_le.mp first.close
  obtain ⟨high, -⟩ := abs_le.mp second.close
  have step : (n : ℚ) + 1 ≤ m := by exact_mod_cast Int.lt_iff_add_one_le.mp (Int.not_le.mp above)
  -- both integers lie a half away from the same number, on both sides of it
  have same : x = y := by linarith
  have after : (m : ℚ) - x = 1 / 2 := by linarith
  have before : (n : ℚ) - y = -(1 / 2) := by linarith
  have up := first.away (by rw [after]; norm_num)
  have down := second.away (by rw [before]; norm_num)
  rw [← same] at down before
  have positive : (0 : ℚ) < m := by
    by_contra notAbove
    rw [abs_of_nonpos (by linarith), abs_of_nonpos (by linarith)] at up
    linarith
  have negative : (n : ℚ) < 0 := by
    by_contra notBelow
    rw [abs_of_nonneg (by linarith), abs_of_nonneg (by linarith)] at down
    linarith
  have one : (1 : ℚ) ≤ m := by exact_mod_cast Int.cast_pos.mp positive
  linarith

/-- No other integer is nearest to a number. -/
theorem unique (first : IsNearest x m) (second : IsNearest x n) : m = n :=
  le_antisymm (first.mono second le_rfl) (second.mono first le_rfl)

/-- An integer is nearest to itself. -/
theorem self (n : ℤ) : IsNearest n n := by
  constructor
  · norm_num
  · norm_num

/-- What a number that is not negative is rounded to, a half going up. -/
theorem of_bounds (nonneg : 0 ≤ x) (low : (n : ℚ) - 1 / 2 ≤ x) (high : x < n + 1 / 2) :
    IsNearest x n := by
  have floor : (0 : ℚ) ≤ n := by
    have : (-1 : ℚ) < n := by linarith
    exact_mod_cast Int.lt_iff_add_one_le.mp (by exact_mod_cast this : (-1 : ℤ) < n)
  refine ⟨abs_le.mpr ⟨by linarith, by linarith⟩, fun half => ?_⟩
  rw [abs_of_nonneg nonneg, abs_of_nonneg floor]
  rcases (abs_eq (by norm_num)).mp half with above | below
  · linarith
  · linarith

end IsNearest

section Rounding

variable {coefficient : Nat} {exponent : Int}

/-- A quotient is rounded to within half a unit, and this far only upwards. -/
theorem roundHalfUp_bounds (n : Nat) {d : Nat} (positive : 0 < d) :
    (roundHalfUp n d : ℚ) - 1 / 2 ≤ (n : ℚ) / d ∧ (n : ℚ) / d < roundHalfUp n d + 1 / 2 := by
  have positive' : (0 : ℚ) < d := Nat.cast_pos.mpr positive
  have split := Nat.div_add_mod n d
  have rest := Nat.mod_lt n positive
  have low : 2 * roundHalfUp n d * d ≤ 2 * n + d := by
    have near := (roundHalfUp_near n positive).2
    rwa [Nat.mul_assoc]
  have high : 2 * n < 2 * roundHalfUp n d * d + d := by
    have comm : n / d * d = d * (n / d) := Nat.mul_comm _ _
    rw [Nat.mul_assoc]
    unfold roundHalfUp
    split
    · omega
    · rw [Nat.add_mul, Nat.one_mul]
      omega
  have low : 2 * (roundHalfUp n d : ℚ) * d ≤ 2 * n + d := by exact_mod_cast low
  have high : 2 * (n : ℚ) < 2 * roundHalfUp n d * d + d := by exact_mod_cast high
  constructor
  · rw [le_div_iff₀ positive']
    linarith
  · rw [div_lt_iff₀ positive']
    linarith

/-- A magnitude whose first digit stands at the second place after the point or further behind is at
most a tenth. -/
theorem magnitude_le_tenth (small : (digitCount coefficient : Int) < -exponent) :
    (coefficient * 10 ^ exponent : ℚ) ≤ 1 / 10 := by
  rcases Nat.eq_zero_or_pos coefficient with zero | positive
  · rw [zero, Nat.cast_zero, zero_mul]
    norm_num
  · have count := (digitCount_bounds positive).2
    have unit : (0 : ℚ) < 10 ^ exponent := by positivity
    calc (coefficient * 10 ^ exponent : ℚ)
        ≤ ((coefficient + 1 : Nat) : ℚ) * 10 ^ exponent :=
          mul_le_mul_of_nonneg_right (Nat.cast_le.mpr (Nat.le_succ _)) unit.le
      _ ≤ 10 ^ (digitCount coefficient : Int) * 10 ^ exponent :=
          mul_le_mul_of_nonneg_right count unit.le
      _ = 10 ^ ((digitCount coefficient : Int) + exponent) := (zpow_add₀ (by norm_num) _ _).symm
      _ ≤ 10 ^ (-1 : Int) := zpow_le_zpow_right₀ (by norm_num) (by omega)
      _ = 1 / 10 := by norm_num

/-- A magnitude is rounded to within half a unit, and this far only upwards. -/
theorem wholeMagnitude_bounds (coefficient : Nat) (exponent : Int) :
    (wholeMagnitude coefficient exponent : ℚ) - 1 / 2 ≤ coefficient * 10 ^ exponent ∧
      (coefficient * 10 ^ exponent : ℚ) < wholeMagnitude coefficient exponent + 1 / 2 := by
  unfold wholeMagnitude
  split
  · next whole =>
    have scale : (10 : ℚ) ^ exponent = 10 ^ exponent.toNat := by
      rw [← zpow_natCast, Int.toNat_of_nonneg whole]
    rw [Nat.cast_mul, cast_pow10, scale]
    constructor
    · linarith
    · linarith
  next fraction =>
  split
  · next small =>
    have nonneg : (0 : ℚ) ≤ coefficient * 10 ^ exponent := by positivity
    have tenth := magnitude_le_tenth small
    rw [Nat.cast_zero]
    constructor
    · linarith
    · linarith
  · have scale : (10 : ℚ) ^ exponent = 1 / (pow10 (-exponent).toNat : Nat) := by
      rw [cast_pow10, ← zpow_natCast, Int.toNat_of_nonneg (by omega), zpow_neg, one_div, inv_inv]
    have near := roundHalfUp_bounds coefficient (pow10_pos (-exponent).toNat)
    rwa [scale, mul_one_div]

/-- A finite number is rounded to the integer nearest to its value. -/
theorem isNearest_wholeMagnitude (negative : Bool) (coefficient : Nat) (exponent : Int) :
    IsNearest (finite negative coefficient exponent).toRat
      (signed negative (wholeMagnitude coefficient exponent)) := by
  obtain ⟨low, high⟩ := wholeMagnitude_bounds coefficient exponent
  have nonneg : (0 : ℚ) ≤ coefficient * 10 ^ exponent := by positivity
  have magnitude : IsNearest (coefficient * 10 ^ exponent)
      (wholeMagnitude coefficient exponent : Nat) := .of_bounds nonneg low high
  rw [toRat_finite]
  cases negative with
  | false =>
    rw [signed_false, signed_false, Int.cast_natCast]
    exact magnitude
  | true =>
    rw [signed_true, signed_true, Int.cast_neg, Int.cast_natCast, neg_mul]
    exact magnitude.neg

end Rounding

end Stencil.Decimal

namespace Stencil

open Decimal (IsNearest)

/-- A finite number is cast to the integer nearest to its value. -/
theorem exists_castInteger_decimal {d : Decimal} (finite : d.isFinite) :
    ∃ n, cast (.decimal d) .integer = .ok (.int n) ∧ IsNearest d.toRat n := by
  obtain ⟨negative, coefficient, exponent, rfl⟩ := Decimal.exists_of_isFinite finite
  exact ⟨_, rfl, Decimal.isNearest_wholeMagnitude negative coefficient exponent⟩

/-- The integer that a finite number is cast to is the only one nearest to its value, at any number
of digits and with any exponent. A larger number has no smaller integer, the opposite number has
the opposite integer, and a whole number has itself. -/
theorem castInteger_decimal {d : Decimal} (finite : d.isFinite) :
    ∃ n, cast (.decimal d) .integer = .ok (.int n) ∧
      (∀ m, IsNearest d.toRat m ↔ m = n) ∧
      (∀ larger : Decimal, larger.isFinite → d.toRat ≤ larger.toRat →
        ∃ m, cast (.decimal larger) .integer = .ok (.int m) ∧ n ≤ m) ∧
      (∀ opposite : Decimal, opposite.isFinite → opposite.toRat = -d.toRat →
        cast (.decimal opposite) .integer = .ok (.int (-n))) ∧
      ∀ m : ℤ, d.toRat = m → n = m := by
  obtain ⟨n, found, nearest⟩ := exists_castInteger_decimal finite
  refine ⟨n, found, fun m => ⟨fun other => other.unique nearest, fun same => same ▸ nearest⟩,
    fun larger finite' le => ?_, fun opposite finite' same => ?_, fun m whole => ?_⟩
  · obtain ⟨m, found', nearest'⟩ := exists_castInteger_decimal finite'
    exact ⟨m, found', nearest.mono nearest' le⟩
  · obtain ⟨m, found', nearest'⟩ := exists_castInteger_decimal finite'
    rw [same] at nearest'
    rw [found', nearest'.unique nearest.neg]
  · rw [whole] at nearest
    exact nearest.unique (.self m)

/-- A negative half of thirty digits goes away from zero. -/
theorem castInteger_decimal_half :
    let half : Decimal := .finite true 123456789012345678901234567895 (-1)
    half.isFinite ∧
      cast (.decimal half) .integer = .ok (.int (-12345678901234567890123456790)) ∧
      ∀ m, IsNearest half.toRat m ↔ m = -12345678901234567890123456790 := by
  intro half
  obtain ⟨n, found, only, -⟩ := castInteger_decimal (d := half) rfl
  have rounded : cast (.decimal half) .integer =
      .ok (.int (-12345678901234567890123456790)) := by rfl
  obtain rfl : n = -12345678901234567890123456790 :=
    Value.int.inj (Except.ok.inj (found.symm.trans rounded))
  exact ⟨rfl, rounded, only⟩

end Stencil
