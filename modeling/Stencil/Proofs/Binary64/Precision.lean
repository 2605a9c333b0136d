import Stencil.Proofs.Binary64.Text
import Stencil.Proofs.Decimal.Value

/-!
# Fifteen digits are kept

A decimal number of at most fifteen digits that is rounded to a binary number of full precision is
the shortest decimal of this number: the grid of its last digit is coarser than the interval is
wide, so no other number of the grid is inside.
-/

namespace Stencil.Binary64

open Number

variable {significand : Nat} {exponent : Int}

/-- The units of a number of full precision are small beside the number. -/
theorem unit_le (full : pow2 52 ≤ significand) (exponent : Int) :
    2 ^ 52 * (2 : ℚ) ^ exponent ≤ significand * 2 ^ exponent := by
  have full : (2 : ℚ) ^ 52 ≤ significand := by
    rw [← cast_pow2]
    exact_mod_cast full
  exact mul_le_mul_of_nonneg_right full (by positivity)

/-- Two numbers inside are at most one unit apart. -/
theorem IsInside.sub_le {x y : ℚ} (first : IsInside significand exponent x)
    (second : IsInside significand exponent y) : x - y ≤ 2 ^ exponent := by
  have unit : (0 : ℚ) < 2 ^ exponent := by positivity
  have above := first.bounds.2
  have below := second.bounds.1
  have reach : reachBelow significand exponent ≤ 1 / 2 := by
    unfold reachBelow
    split <;> norm_num
  have width : (significand + 1 / 2 : ℚ) * 2 ^ exponent -
      (significand - reachBelow significand exponent) * 2 ^ exponent ≤ 2 ^ exponent := by
    nlinarith
  linarith

/-- Numbers of a grid that are less than a step apart are the same. -/
theorem eq_of_sub_lt {a b : Nat} {power : Int}
    (below : (a * 10 ^ power - b * 10 ^ power : ℚ) < 10 ^ power)
    (above : (b * 10 ^ power - a * 10 ^ power : ℚ) < 10 ^ power) : a = b := by
  have step : (0 : ℚ) < 10 ^ power := by positivity
  have below : (a : ℚ) < ((b + 1 : Nat) : ℚ) := by
    rw [Nat.cast_succ]
    nlinarith
  have above : (b : ℚ) < ((a + 1 : Nat) : ℚ) := by
    rw [Nat.cast_succ]
    nlinarith
  have below : a < b + 1 := by exact_mod_cast below
  have above : b < a + 1 := by exact_mod_cast above
  omega

/-- A number on a grid is on every finer one. -/
theorem refine_grid (n : Nat) {coarse fine : Int} (le : fine ≤ coarse) :
    (n * 10 ^ coarse : ℚ) = (n * pow10 (coarse - fine).toNat : Nat) * 10 ^ fine := by
  have shift : coarse = ((coarse - fine).toNat : Int) + fine := by omega
  nth_rewrite 1 [shift]
  rw [zpow_add₀ (by norm_num), zpow_natCast, Nat.cast_mul, cast_pow10, mul_assoc]

/-- A decimal number of at most fifteen digits that is inside lies on a grid that the search tries.
Its steps are wider than a unit of the last binary digit. -/
theorem exists_wide_grid (formed : IsFormed significand exponent) (full : pow2 52 ≤ significand)
    {m : Nat} {power : Int} (few : m < pow10 15)
    (inside : IsInside significand exponent (m * 10 ^ power)) :
    ∃ stop : Int, stop ≤ leadingDigit (interval significand exponent) ∧ stop ≤ power ∧
      leadingDigit (interval significand exponent) < stop + 17 ∧
      (2 : ℚ) ^ exponent < 10 ^ stop := by
  have significand_pos : 0 < significand := Nat.lt_of_lt_of_le (pow2_pos 52) full
  obtain ⟨low, high⟩ := leadingDigit_bounds formed significand_pos
  have small := unit_le full exponent
  have apart := (isInside_self significand exponent).sub_le inside
  have unit : (0 : ℚ) < 2 ^ exponent := by positivity
  have step : (0 : ℚ) < 10 ^ power := by positivity
  have ten : (10 : ℚ) ≠ 0 := by norm_num
  generalize leadingDigit (interval significand exponent) = start at *
  have few : (m : ℚ) < 10 ^ 15 := by
    rw [← cast_pow10]
    exact_mod_cast few
  have value_lt : (m * 10 ^ power : ℚ) < 10 ^ 15 * 10 ^ power :=
    mul_lt_mul_of_pos_right few step
  -- the number is hardly larger than the decimal one
  have near : (significand * 2 ^ exponent : ℚ) ≤ 2 * (m * 10 ^ power) := by linarith
  -- the grid of the last digit, or of the leading digit of the number where this is finer
  rcases le_total power start with le | le
  · refine ⟨power, le, le_refl _, ?_, by linarith⟩
    have : (10 : ℚ) ^ start < 10 ^ (power + 16) :=
      calc (10 : ℚ) ^ start ≤ significand * 2 ^ exponent := low
        _ < 10 ^ 16 * 10 ^ power := by linarith
        _ = 10 ^ (power + 16) := by
          rw [zpow_add₀ ten, mul_comm]
          rfl
    have := (zpow_lt_zpow_iff_right₀ (by norm_num : (1 : ℚ) < 10)).mp this
    omega
  · refine ⟨start, le_refl _, le, by omega, ?_⟩
    rw [zpow_add_one₀ ten] at high
    have : (0 : ℚ) < 10 ^ start := by positivity
    linarith

/-- The shortest decimal of a number of full precision is the decimal number of at most fifteen
digits that is inside. -/
theorem shortest_of_isInside (formed : IsFormed significand exponent)
    (full : pow2 52 ≤ significand) {m : Nat} {power : Int} (positive : 0 < m)
    (few : m < pow10 15) (inside : IsInside significand exponent (m * 10 ^ power)) :
    ((shortest significand exponent).1 * 10 ^ (shortest significand exponent).2 : ℚ) =
      m * 10 ^ power := by
  have significand_pos : 0 < significand := Nat.lt_of_lt_of_le (pow2_pos 52) full
  have found := isShortest_shortest formed significand_pos
  obtain ⟨stop, coarse, onGrid, tried, wide⟩ := exists_wide_grid formed full few inside
  rw [refine_grid m onGrid] at inside ⊢
  have nonzero : m * pow10 (power - stop).toNat ≠ 0 :=
    (Nat.mul_pos positive (pow10_pos _)).ne'
  have fine := found.first _ stop nonzero inside coarse tried
  have found := found.inside
  rw [refine_grid _ fine] at found ⊢
  congr 2
  have below := found.sub_le inside
  have above := inside.sub_le found
  exact eq_of_sub_lt (lt_of_le_of_lt below wide) (lt_of_le_of_lt above wide)

section Range

/-- The numbers of the greatest exponent go beyond a power of ten. -/
theorem pow10_le_greatest : (10 : ℚ) ^ (308 : Int) ≤ (2 ^ 53 - 1 / 2) * 2 ^ (971 : Int) := by
  have powers : ((pow10 308 : Nat) : ℚ) ≤ ((2 ^ 54 - 1) * pow2 970 : Nat) :=
    Nat.cast_le.mpr (by decide +kernel)
  have ten : (10 : ℚ) ^ (308 : Int) = (pow10 308 : Nat) := by
    rw [cast_pow10]
    exact zpow_natCast 10 308
  have two : (2 : ℚ) ^ (971 : Int) = 2 * (pow2 970 : Nat) := by
    have split : (971 : Int) = ((970 : Nat) : Int) + 1 := rfl
    rw [split, zpow_add_one₀ two_ne_zero, zpow_natCast, cast_pow2, mul_comm]
  rw [ten, two]
  rw [Nat.cast_mul] at powers
  clear ten two
  generalize (pow2 970 : ℚ) = x at *
  push_cast at powers
  linarith

/-- The numbers of less than full precision are below a power of ten. -/
theorem least_lt_pow10 : (2 : ℚ) ^ (-1022 : Int) < 10 ^ (-307 : Int) := by
  have powers : (10 : ℚ) ^ 307 < 2 ^ 1022 := by
    rw [← cast_pow10, ← cast_pow2]
    exact Nat.cast_lt.mpr (by decide +kernel)
  rw [zpow_neg, zpow_neg]
  exact inv_strictAnti₀ (by positivity) powers

/-- A number of less than full precision has the least exponent, so what is inside is small. -/
theorem IsFormed.lt_of_short (formed : IsFormed significand exponent)
    (short : significand < pow2 52) {x : ℚ} (inside : IsInside significand exponent x) :
    x < 10 ^ (-307 : Int) := by
  obtain rfl := formed.full.resolve_left (Nat.not_le_of_lt short)
  have unit : (0 : ℚ) < 2 ^ minExponent := by positivity
  have digits : (significand + 1 / 2 : ℚ) ≤ 2 ^ 52 := by
    have : ((significand + 1 : Nat) : ℚ) ≤ (pow2 52 : Nat) := by exact_mod_cast short
    rw [cast_pow2, Nat.cast_succ] at this
    linarith
  calc x ≤ (significand + 1 / 2) * 2 ^ minExponent := inside.bounds.2
    _ ≤ 2 ^ 52 * 2 ^ minExponent := mul_le_mul_of_nonneg_right digits (le_of_lt unit)
    _ = 2 ^ (-1022 : Int) := by
      rw [← zpow_natCast 2 52, ← zpow_add₀ two_ne_zero]
      rfl
    _ < 10 ^ (-307 : Int) := least_lt_pow10

variable {negative negative' : Bool} {numerator denominator coefficient : Nat} {power : Int}

/-- Only a large ratio is rounded to an infinity. -/
theorem le_of_ofRatio_infinite (positive : 0 < numerator) (positive' : 0 < denominator)
    (h : ofRatio negative numerator denominator = .infinite negative') :
    (10 : ℚ) ^ (308 : Int) ≤ (numerator : ℚ) / denominator := by
  have full := (scaled_bounds positive positive').2
  have near := (isBetween_roundHalfEven (numerator * pow2 (-quantum numerator denominator).toNat)
    (Nat.mul_pos positive' (pow2_pos (quantum numerator denominator).toNat))).bounds.1
  rw [cast_scaled] at near
  unfold ofRatio at h
  rw [if_neg positive.ne'] at h
  dsimp only at h
  generalize quantum numerator denominator = scale at *
  generalize roundHalfEven _ _ = m at *
  have unit : (0 : ℚ) < 2 ^ scale := by positivity
  -- the number has the full precision and an exponent that is too large
  have large (least : 971 ≤ scale)
      (above : (2 : ℚ) ^ 53 - 1 / 2 ≤ (numerator : ℚ) / denominator / 2 ^ scale) :
      (10 : ℚ) ^ (308 : Int) ≤ (numerator : ℚ) / denominator :=
    calc (10 : ℚ) ^ (308 : Int) ≤ (2 ^ 53 - 1 / 2) * 2 ^ (971 : Int) := pow10_le_greatest
      _ ≤ (2 ^ 53 - 1 / 2) * 2 ^ scale :=
        mul_le_mul_of_nonneg_left (zpow_le_zpow_right₀ one_le_two least) (by norm_num)
      _ ≤ (numerator : ℚ) / denominator := (le_div_iff₀ unit).mp above
  split at h
  · next carried =>
    dsimp only at h
    split at h
    · next exceeds =>
      rw [carried, cast_pow2] at near
      simp only [maxExponent] at exceeds
      exact large (by omega) near
    · cases h
  · dsimp only at h
    split at h
    · next exceeds =>
      simp only [maxExponent] at exceeds
      have above := full.resolve_right (by simp only [minExponent]; omega)
      calc (10 : ℚ) ^ (308 : Int) ≤ (2 ^ 53 - 1 / 2) * 2 ^ (971 : Int) := pow10_le_greatest
        _ ≤ 2 ^ 52 * 2 ^ ((971 : Int) + 1) := by
          have : (0 : ℚ) < 2 ^ (971 : Int) := zpow_pos two_pos _
          rw [zpow_add_one₀ two_ne_zero]
          generalize (2 : ℚ) ^ (971 : Int) = x at *
          linarith
        _ ≤ 2 ^ 52 * 2 ^ scale :=
          mul_le_mul_of_nonneg_left (zpow_le_zpow_right₀ one_le_two (by omega)) (by norm_num)
        _ ≤ (numerator : ℚ) / denominator := (le_div_iff₀ unit).mp above
    · cases h

/-- A decimal number in the range of the numbers of full precision is rounded to one of them. -/
theorem exists_ofScientific (positive : 0 < coefficient)
    (low : (10 : ℚ) ^ (-307 : Int) ≤ coefficient * 10 ^ power)
    (high : (coefficient * 10 ^ power : ℚ) < 10 ^ (308 : Int)) (negative : Bool) :
    ∃ significand exponent,
      ofScientific negative ⟨coefficient, power⟩ = .finite negative significand exponent ∧
      IsFormed significand exponent ∧ pow2 52 ≤ significand ∧
      IsInside significand exponent (coefficient * 10 ^ power) := by
  have value_pos : (0 : ℚ) < coefficient * 10 ^ power := by positivity
  have leading := Decimal.leadingExponent_eq_log positive power
  have below : Int.log 10 (coefficient * 10 ^ power : ℚ) < 308 :=
    (Int.lt_zpow_iff_log_lt (by decide) value_pos).mp high
  have above : -307 ≤ Int.log 10 (coefficient * 10 ^ power : ℚ) :=
    (Int.zpow_le_iff_le_log (by decide) value_pos).mp low
  rw [← leading, Decimal.leadingExponent] at below above
  have ratio : ofScientific negative ⟨coefficient, power⟩ =
      ofRatio negative (coefficient * pow10 power.toNat) (pow10 (-power).toNat) := by
    unfold ofScientific
    dsimp only
    rw [if_neg positive.ne', if_neg (by omega), if_neg (by omega)]
  have numerator_pos : 0 < coefficient * pow10 power.toNat :=
    Nat.mul_pos positive (pow10_pos _)
  rw [ratio]
  cases nearest : ofRatio negative (coefficient * pow10 power.toNat) (pow10 (-power).toNat) with
  | finite negative' significand exponent =>
    obtain ⟨rfl, formed, inside⟩ := of_ofRatio numerator_pos (pow10_pos _) nearest
    rw [cast_scientific] at inside
    refine ⟨significand, exponent, rfl, formed, ?_, inside⟩
    by_contra short
    exact absurd low (not_le_of_gt (formed.lt_of_short (Nat.lt_of_not_le short) inside))
  | infinite negative' =>
    have large := le_of_ofRatio_infinite numerator_pos (pow10_pos _) nearest
    rw [cast_scientific] at large
    exact absurd high (not_lt_of_ge large)
  | undefined =>
    rw [ofRatio, if_neg numerator_pos.ne'] at nearest
    dsimp only at nearest
    split at nearest <;> dsimp only at nearest <;> split at nearest <;> cases nearest

/-- A decimal number of at most fifteen digits, apart from zeros at their end, that is in the range
of the numbers of full precision is spelled by the text of its nearest binary number. -/
theorem exists_spelledValue_eq {m k : Nat} (positive : 0 < m) (few : m < pow10 15)
    (low : (10 : ℚ) ^ (-307 : Int) ≤ (m * pow10 k : Nat) * 10 ^ power)
    (high : ((m * pow10 k : Nat) * 10 ^ power : ℚ) < 10 ^ (308 : Int)) (negative : Bool) :
    ∃ significand exponent,
      ofScientific negative ⟨m * pow10 k, power⟩ = .finite negative significand exponent ∧
      spelledValue significand exponent = (m * pow10 k : Nat) * 10 ^ power := by
  obtain ⟨significand, exponent, nearest, formed, full, inside⟩ :=
    exists_ofScientific (Nat.mul_pos positive (pow10_pos k)) low high negative
  refine ⟨significand, exponent, nearest, ?_⟩
  have value : ((m * pow10 k : Nat) * 10 ^ power : ℚ) = m * 10 ^ ((k : Int) + power) := by
    rw [zpow_add₀ (by norm_num), zpow_natCast, Nat.cast_mul, cast_pow10, mul_assoc]
  have nonzero : significand ≠ 0 := (Nat.lt_of_lt_of_le (pow2_pos 52) full).ne'
  rw [value] at inside ⊢
  rw [spelledValue, if_neg nonzero]
  exact shortest_of_isInside formed full positive few inside

end Range

end Stencil.Binary64
