import Mathlib.Data.Int.Log
import Stencil.Binary64.Basic
import Stencil.Proofs.Number.Rational

/-!
# Rounding to binary numbers

The nearest binary number of a ratio is at most half a unit of its last digit away, and this far
only if its significand is even. Just above a power of two the numbers below lie twice as close, and
so does what is rounded to the power. What lies half a unit or more above the greatest number is
rounded to an infinity.
-/

namespace Stencil.Binary64

open Number

section Ratio

variable {numerator denominator : Nat}

/-- A positive number lies between the powers of two around its leading binary digit. -/
theorem log2_bounds {n : Nat} (positive : 0 < n) :
    (2 : ℚ) ^ (n.log2 : Int) ≤ n ∧ (n : ℚ) < 2 ^ ((n.log2 : Int) + 1) := by
  rw [← Nat.cast_succ, zpow_natCast, zpow_natCast]
  constructor
  · exact_mod_cast Nat.log2_self_le positive.ne'
  · exact_mod_cast Nat.lt_log2_self

/-- The last binary digit that is kept is the fifty-third one, unless it is below the least. -/
theorem quantum_eq (positive : 0 < numerator) (positive' : 0 < denominator) :
    quantum numerator denominator =
      max minExponent (Int.log 2 ((numerator : ℚ) / denominator) - 52) := by
  have n_pos : (0 : ℚ) < numerator := Nat.cast_pos.mpr positive
  have d_pos : (0 : ℚ) < denominator := Nat.cast_pos.mpr positive'
  have ratio_pos : (0 : ℚ) < (numerator : ℚ) / denominator := by positivity
  obtain ⟨n_low, n_high⟩ := log2_bounds positive
  obtain ⟨d_low, d_high⟩ := log2_bounds positive'
  -- the leading digits of both numbers leave two places for the one of the ratio
  let guess : Int := (numerator.log2 : Int) - denominator.log2
  have high : (numerator : ℚ) / denominator < 2 ^ (guess + 1) := by
    rw [div_lt_iff₀ d_pos]
    calc (numerator : ℚ) < 2 ^ ((numerator.log2 : Int) + 1) := n_high
      _ = 2 ^ (guess + 1) * 2 ^ (denominator.log2 : Int) := by
        rw [← zpow_add₀ two_ne_zero]
        congr 1
        omega
      _ ≤ 2 ^ (guess + 1) * denominator := by gcongr
  have low : 2 ^ (guess - 1) < (numerator : ℚ) / denominator := by
    rw [lt_div_iff₀ d_pos]
    calc (2 : ℚ) ^ (guess - 1) * denominator
        < 2 ^ (guess - 1) * 2 ^ ((denominator.log2 : Int) + 1) := by gcongr
      _ = 2 ^ (numerator.log2 : Int) := by
        rw [← zpow_add₀ two_ne_zero]
        congr 1
        omega
      _ ≤ numerator := n_low
  have reached : denominator * pow2 guess.toNat ≤ numerator * pow2 (-guess).toNat ↔
      2 ^ guess ≤ (numerator : ℚ) / denominator := by
    have shift : (0 : ℚ) < 2 ^ (-guess).toNat := by positivity
    rw [le_div_iff₀ d_pos, ← @Nat.cast_le ℚ, Nat.cast_mul, Nat.cast_mul, cast_pow2, cast_pow2,
      pow_toNat two_ne_zero guess, ← mul_assoc, mul_le_mul_iff_left₀ shift, mul_comm]
  have log_high : Int.log 2 ((numerator : ℚ) / denominator) < guess + 1 :=
    (Int.lt_zpow_iff_log_lt (by decide) ratio_pos).mp high
  have log_low : guess - 1 ≤ Int.log 2 ((numerator : ℚ) / denominator) :=
    (Int.zpow_le_iff_le_log (by decide) ratio_pos).mp (le_of_lt low)
  have log_reached : 2 ^ guess ≤ (numerator : ℚ) / denominator ↔
      guess ≤ Int.log 2 ((numerator : ℚ) / denominator) :=
    Int.zpow_le_iff_le_log (by decide) ratio_pos
  unfold quantum
  dsimp only
  congr 1
  split
  · next h =>
    have := log_reached.mp (reached.mp h)
    omega
  · next h =>
    have := mt log_reached.mpr (mt reached.mpr h)
    omega

end Ratio

/-- Scaling by the last digit that is kept divides the ratio by its unit. -/
theorem cast_scaled (numerator denominator : Nat) (exponent : Int) :
    ((numerator * pow2 (-exponent).toNat : Nat) : ℚ) /
        (denominator * pow2 exponent.toNat : Nat) =
      (numerator : ℚ) / denominator / 2 ^ exponent := by
  have shift : (2 : ℚ) ^ (-exponent).toNat ≠ 0 := by positivity
  rw [Nat.cast_mul, Nat.cast_mul, cast_pow2, cast_pow2, pow_toNat two_ne_zero exponent, div_div,
    ← mul_assoc, mul_div_mul_right _ _ shift]

/-- How far a number below may lie that is rounded to the number, in units of its last digit. -/
def reachBelow (significand : Nat) (exponent : Int) : ℚ :=
  if significand = pow2 52 ∧ minExponent < exponent then 1 / 4 else 1 / 2

/-- Whether a positive number lies so close to a binary number that it is rounded to it. -/
def IsInside (significand : Nat) (exponent : Int) (x : ℚ) : Prop :=
  IsBetween (decide (significand % 2 = 0))
    ((significand - reachBelow significand exponent) * 2 ^ exponent)
    ((significand + 1 / 2) * 2 ^ exponent) x

/-- The form of a finite number: its significand has at most fifty-three binary digits, and no fewer
unless the exponent is the least one. -/
structure IsFormed (significand : Nat) (exponent : Int) : Prop where
  /-- The exponent is not below the least one. -/
  low : minExponent ≤ exponent
  /-- The exponent is not above the greatest one. -/
  high : exponent ≤ maxExponent
  /-- The significand has at most fifty-three digits. -/
  short : significand < pow2 53
  /-- A significand of fewer digits has the least exponent. -/
  full : pow2 52 ≤ significand ∨ exponent = minExponent

/-- The significand as a rational number is below the next power of two. -/
theorem IsFormed.cast_lt {significand : Nat} {exponent : Int}
    (formed : IsFormed significand exponent) : (significand : ℚ) < 2 ^ 53 := by
  have short := Nat.cast_lt (α := ℚ).mpr formed.short
  rwa [cast_pow2] at short

/-- Zero has the form of a finite number. -/
theorem isFormed_zero : IsFormed 0 minExponent := ⟨by decide, by decide, by decide, .inr rfl⟩

/-- A number stays inside when it is scaled to the unit of the last digit. -/
theorem isInside_iff {significand : Nat} {exponent : Int} {x : ℚ} :
    IsInside significand exponent x ↔ IsBetween (decide (significand % 2 = 0))
      (significand - reachBelow significand exponent) (significand + 1 / 2) (x / 2 ^ exponent) := by
  have unit : (0 : ℚ) < 2 ^ exponent := by positivity
  rw [← IsBetween.mul_iff unit, div_mul_cancel₀ x (ne_of_gt unit)]
  rfl

section Nearest

variable {negative negative' : Bool} {numerator denominator significand : Nat} {exponent : Int}

/-- The ratio in units of the last digit that is kept has fifty-three digits before the point, and
no fewer unless the exponent is the least one. -/
theorem scaled_bounds (positive : 0 < numerator) (positive' : 0 < denominator) :
    (numerator : ℚ) / denominator / 2 ^ quantum numerator denominator < 2 ^ 53 ∧
      (2 ^ 52 ≤ (numerator : ℚ) / denominator / 2 ^ quantum numerator denominator ∨
        quantum numerator denominator = minExponent) := by
  have ratio_pos : (0 : ℚ) < (numerator : ℚ) / denominator := by positivity
  have low := Int.zpow_log_le_self (b := 2) (by decide) ratio_pos
  have high := Int.lt_zpow_succ_log_self (b := 2) (by decide) ((numerator : ℚ) / denominator)
  have unit : (0 : ℚ) < 2 ^ quantum numerator denominator := by positivity
  rw [quantum_eq positive positive'] at unit ⊢
  generalize Int.log 2 ((numerator : ℚ) / denominator) = leading at low high unit ⊢
  rw [Nat.cast_ofNat] at low high
  constructor
  · rw [div_lt_iff₀ unit]
    refine lt_of_lt_of_le high ?_
    rw [← zpow_natCast 2 53, ← zpow_add₀ two_ne_zero]
    exact zpow_le_zpow_right₀ one_le_two (by omega)
  · by_cases least : leading - 52 ≤ minExponent
    · exact .inr (by omega)
    · left
      rw [le_div_iff₀ unit]
      refine le_trans ?_ low
      rw [← zpow_natCast 2 52, ← zpow_add₀ two_ne_zero]
      exact zpow_le_zpow_right₀ one_le_two (by omega)

/-- A positive ratio that is rounded to a finite number is rounded to one that it lies close to,
unless it is rounded to zero. -/
theorem of_ofRatio (positive : 0 < numerator) (positive' : 0 < denominator)
    (h : ofRatio negative numerator denominator = .finite negative' significand exponent) :
    negative' = negative ∧ IsFormed significand exponent ∧
      IsInside significand exponent ((numerator : ℚ) / denominator) := by
  obtain ⟨high, low⟩ := scaled_bounds positive positive'
  have least : minExponent ≤ quantum numerator denominator := by
    rw [quantum_eq positive positive']
    exact le_max_left _ _
  have scaled : 0 < denominator * pow2 (quantum numerator denominator).toNat :=
    Nat.mul_pos positive' (pow2_pos _)
  have near := isBetween_roundHalfEven
    (numerator * pow2 (-quantum numerator denominator).toNat) scaled
  rw [cast_scaled] at near
  unfold ofRatio at h
  rw [if_neg positive.ne'] at h
  dsimp only at h
  generalize quantum numerator denominator = unit at *
  generalize roundHalfEven _ _ = m at *
  generalize hx : (numerator : ℚ) / denominator = x at *
  obtain ⟨nearLow, nearHigh⟩ := near.bounds
  have short : m ≤ pow2 53 := by
    have : (m : ℚ) < ((pow2 53 + 1 : Nat) : ℚ) := by
      rw [Nat.cast_succ, cast_pow2]
      linarith
    exact Nat.lt_succ_iff.mp (by exact_mod_cast this)
  have full (notLeast : unit ≠ minExponent) : pow2 52 ≤ m := by
    have large := low.resolve_right notLeast
    have : ((pow2 52 : Nat) : ℚ) < ((m + 1 : Nat) : ℚ) := by
      rw [Nat.cast_succ, cast_pow2]
      linarith
    exact Nat.lt_succ_iff.mp (by exact_mod_cast this)
  split at h
  · next carried =>
    -- rounded up to the next power of two
    dsimp only at h
    split at h
    · cases h
    next fits =>
    cases h
    have powers : (m : ℚ) = 2 * (pow2 52 : Nat) := by
      rw [carried, cast_pow2, cast_pow2]
      norm_num
    refine ⟨rfl, ⟨by omega, by omega, by decide, .inl (le_refl _)⟩, isInside_iff.mpr ?_⟩
    have narrow : reachBelow (pow2 52) (unit + 1) = 1 / 4 := if_pos ⟨rfl, by omega⟩
    have half : x / 2 ^ (unit + 1) = x / 2 ^ unit / 2 := by
      rw [zpow_add_one₀ two_ne_zero, div_div]
    rw [narrow, half]
    exact ⟨by linarith, by linarith⟩
  · next whole =>
    dsimp only at h
    split at h
    · cases h
    next fits =>
    cases h
    refine ⟨rfl, ⟨least, by omega, by omega, ?_⟩, isInside_iff.mpr ?_⟩
    · by_cases isLeast : exponent = minExponent
      · exact .inr isLeast
      · exact .inl (full isLeast)
    · by_cases narrow : significand = pow2 52 ∧ minExponent < exponent
      · -- nothing below the power was rounded to it with this exponent
        obtain ⟨power, above⟩ := narrow
        have large := low.resolve_right (by omega)
        have even : significand % 2 = 0 := by
          rw [power]
          decide
        have value : (significand : ℚ) = 2 ^ 52 := by rw [power, cast_pow2]
        rw [reachBelow, if_pos ⟨power, above⟩, decide_eq_true even]
        exact ⟨by linarith, nearHigh⟩
      · rw [reachBelow, if_neg narrow]
        exact near

end Nearest

section Scientific

variable {negative negative' : Bool} {coefficient significand : Nat} {power exponent : Int}

/-- A power of ten is a ratio. -/
theorem cast_scientific (coefficient : Nat) (power : Int) :
    ((coefficient * pow10 power.toNat : Nat) : ℚ) / (pow10 (-power).toNat : Nat) =
      coefficient * 10 ^ power := by
  have shift : (10 : ℚ) ^ (-power).toNat ≠ 0 := by positivity
  rw [Nat.cast_mul, cast_pow10, cast_pow10, pow_toNat (by norm_num) power, ← mul_assoc,
    mul_div_assoc, div_self shift, mul_one]

/-- A positive decimal number that is rounded to a finite number other than zero is rounded to one
that it lies close to. -/
theorem of_ofScientific
    (h : ofScientific negative ⟨coefficient, power⟩ = .finite negative' significand exponent) :
    negative' = negative ∧ IsFormed significand exponent ∧
      (0 < coefficient → 0 < significand →
        IsInside significand exponent (coefficient * 10 ^ power)) := by
  unfold ofScientific at h
  dsimp only at h
  split at h
  · next zero =>
    cases h
    exact ⟨rfl, isFormed_zero, fun positive => absurd zero positive.ne'⟩
  next nonzero =>
  split at h
  · cases h
  split at h
  · cases h
    exact ⟨rfl, isFormed_zero, fun _ positive => absurd rfl positive.ne'⟩
  · have positive : 0 < coefficient * pow10 power.toNat :=
      Nat.mul_pos (Nat.pos_of_ne_zero nonzero) (pow10_pos _)
    obtain ⟨same, formed, inside⟩ := of_ofRatio positive (pow10_pos _) h
    rw [cast_scientific] at inside
    exact ⟨same, formed, fun _ _ => inside⟩

end Scientific

section Range

variable {negative : Bool} {numerator denominator : Nat}

/-- The least number that is too large for a finite one: half a unit above the greatest one, for a
half goes to the even neighbour, which would be the next power of two. -/
def overflowBound : ℚ := (2 ^ 53 - 1 / 2) * 2 ^ maxExponent

/-- A ratio that is rounded to an infinity is too large. -/
theorem overflowBound_le_of_infinite {negative' : Bool} (positive : 0 < numerator)
    (positive' : 0 < denominator)
    (h : ofRatio negative numerator denominator = .infinite negative') :
    overflowBound ≤ (numerator : ℚ) / denominator := by
  obtain ⟨-, low⟩ := scaled_bounds positive positive'
  have scaled : 0 < denominator * pow2 (quantum numerator denominator).toNat :=
    Nat.mul_pos positive' (pow2_pos _)
  have near := isBetween_roundHalfEven
    (numerator * pow2 (-quantum numerator denominator).toNat) scaled
  rw [cast_scaled] at near
  unfold ofRatio at h
  rw [if_neg positive.ne'] at h
  dsimp only at h
  generalize quantum numerator denominator = unit at *
  generalize roundHalfEven _ _ = m at *
  generalize (numerator : ℚ) / denominator = x at *
  have unit_pos : (0 : ℚ) < 2 ^ unit := by positivity
  unfold overflowBound
  split at h
  · next carried =>
    -- rounded up to the next power of two
    dsimp only at h
    split at h
    · next large =>
      have above := near.bounds.1
      rw [carried, cast_pow2, le_div_iff₀ unit_pos] at above
      refine le_trans (mul_le_mul_of_nonneg_left ?_ (by norm_num)) above
      exact zpow_le_zpow_right₀ one_le_two (by omega)
    · cases h
  · dsimp only at h
    split at h
    · next large =>
      have least : unit ≠ minExponent := by
        simp only [maxExponent] at large
        simp only [minExponent]
        omega
      have above := low.resolve_right least
      rw [le_div_iff₀ unit_pos] at above
      calc ((2 : ℚ) ^ 53 - 1 / 2) * 2 ^ maxExponent
          ≤ 2 ^ 52 * 2 ^ (maxExponent + 1) := by
            have top : (0 : ℚ) < 2 ^ maxExponent := by positivity
            rw [zpow_add_one₀ two_ne_zero]
            linarith
        _ ≤ 2 ^ 52 * 2 ^ unit := by
            refine mul_le_mul_of_nonneg_left ?_ (by norm_num)
            exact zpow_le_zpow_right₀ one_le_two (by omega)
        _ ≤ x := above
    · cases h

/-- A ratio that is rounded to a finite number is not too large. -/
theorem lt_overflowBound_of_finite {negative' : Bool} {significand : Nat} {exponent : Int}
    (positive : 0 < numerator) (positive' : 0 < denominator)
    (h : ofRatio negative numerator denominator = .finite negative' significand exponent) :
    (numerator : ℚ) / denominator < overflowBound := by
  obtain ⟨-, formed, inside⟩ := of_ofRatio positive positive' h
  have unit : (2 : ℚ) ^ exponent ≤ 2 ^ maxExponent :=
    zpow_le_zpow_right₀ one_le_two formed.high
  by_cases even : significand % 2 = 0
  · -- an even significand leaves room below the next power of two
    have short : (significand : ℚ) + 1 / 2 < 2 ^ 53 - 1 / 2 := by
      have odd : (pow2 53 - 1) % 2 = 1 := by decide
      have below : significand + 2 ≤ pow2 53 := by
        have := formed.short
        omega
      have below : ((significand + 2 : Nat) : ℚ) ≤ (pow2 53 : Nat) := Nat.cast_le.mpr below
      rw [cast_pow2, Nat.cast_add, Nat.cast_ofNat] at below
      linarith
    exact inside.bounds.2.trans_lt (mul_lt_mul short unit (by positivity) (by norm_num))
  · -- half a unit above an odd significand is not rounded to it
    have short : (significand : ℚ) + 1 / 2 ≤ 2 ^ 53 - 1 / 2 := by
      have below : ((significand + 1 : Nat) : ℚ) ≤ (pow2 53 : Nat) :=
        Nat.cast_le.mpr formed.short
      rw [cast_pow2, Nat.cast_succ] at below
      linarith
    rw [IsInside, decide_eq_false even] at inside
    exact inside.2.trans_le (mul_le_mul short unit (by positivity) (by norm_num))

/-- Every ratio is rounded to a number. -/
theorem ofRatio_ne_undefined : ofRatio negative numerator denominator ≠ .undefined := by
  unfold ofRatio
  dsimp only
  generalize (if roundHalfEven _ _ = pow2 53 then _ else _) = rounded
  split
  · exact nofun
  · split <;> exact nofun

/-- A positive ratio is rounded to an infinity exactly if it is too large. -/
theorem ofRatio_eq_infinite_iff (positive : 0 < numerator) (positive' : 0 < denominator) :
    (∃ negative', ofRatio negative numerator denominator = .infinite negative') ↔
      overflowBound ≤ (numerator : ℚ) / denominator := by
  constructor
  · rintro ⟨negative', h⟩
    exact overflowBound_le_of_infinite positive positive' h
  · intro large
    cases h : ofRatio negative numerator denominator with
    | infinite negative' => exact ⟨negative', rfl⟩
    | undefined => exact absurd h ofRatio_ne_undefined
    | finite => exact absurd large (lt_overflowBound_of_finite positive positive' h).not_ge

/-- An integer is rounded to an infinity exactly if it is at least as far from zero as the middle
between the greatest finite number and the next power of two. -/
theorem ofInt_eq_infinite_iff {n : Int} :
    (∃ negative, ofInt n = .infinite negative) ↔ pow2 1024 ≤ n.natAbs + pow2 970 := by
  have bound : overflowBound = (pow2 1024 : Nat) - (pow2 970 : Nat) := by
    have whole : (2 : ℚ) ^ 1024 = 2 ^ 54 * 2 ^ 970 := by rw [← pow_add]
    have unit : (2 : ℚ) ^ maxExponent = 2 * 2 ^ 970 := by
      rw [← pow_succ', ← zpow_natCast]
      rfl
    rw [cast_pow2, cast_pow2, overflowBound, whole, unit]
    generalize (2 : ℚ) ^ 970 = below
    ring
  have reached : overflowBound ≤ ((n.natAbs : Nat) : ℚ) / (1 : Nat) ↔
      pow2 1024 ≤ n.natAbs + pow2 970 := by
    rw [bound, Nat.cast_one, div_one, sub_le_iff_le_add, ← Nat.cast_add, Nat.cast_le]
  rw [ofInt, ofSignedRatio, ← reached]
  rcases Nat.eq_zero_or_pos n.natAbs with zero | positive
  · -- zero is rounded to zero
    have above : (0 : ℚ) < overflowBound := mul_pos (by norm_num) (by positivity)
    rw [ofRatio, if_pos zero, zero, Nat.cast_zero, zero_div]
    exact iff_of_false nofun above.not_ge
  · exact ofRatio_eq_infinite_iff positive one_pos

end Range

end Stencil.Binary64
