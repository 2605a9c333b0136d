import Mathlib.Data.Int.Log
import Stencil.Decimal.Arithmetic
import Stencil.Proofs.Number.Rational

/-!
# The value of a decimal number

The value of a finite decimal number is a rational number. Two finite numbers of the same sign
compare as equal exactly when they have the same value, whatever their scales are.
-/

namespace Stencil.Decimal

open Number

variable {coefficient coefficient' : Nat} {exponent exponent' : Int}

/-- The value of a finite number; numbers that are not finite have none. -/
def toRat : Decimal → ℚ
  | .finite negative coefficient exponent => signed negative coefficient * 10 ^ exponent
  | _ => 0

/-- The value of a finite number. -/
theorem toRat_finite (negative : Bool) (coefficient : Nat) (exponent : Int) :
    (finite negative coefficient exponent).toRat = signed negative coefficient * 10 ^ exponent :=
  rfl

/-- A number without a sign is its own signed value. -/
theorem signed_false (coefficient : Nat) : signed false coefficient = coefficient := rfl

/-- A number with a sign stands for the opposite one. -/
theorem signed_true (coefficient : Nat) : signed true coefficient = -(coefficient : Int) := rfl

/-- The exponent of the leading digit is the logarithm of the value. -/
theorem leadingExponent_eq_log (positive : 0 < coefficient) (exponent : Int) :
    leadingExponent coefficient exponent = Int.log 10 (coefficient * 10 ^ exponent : ℚ) := by
  obtain ⟨below, above⟩ := digitCount_bounds positive
  have unit : (0 : ℚ) < 10 ^ exponent := by positivity
  have value_pos : (0 : ℚ) < coefficient * 10 ^ exponent := by positivity
  have ten : (10 : ℚ) ≠ 0 := by norm_num
  have low : ((10 : Nat) : ℚ) ^ leadingExponent coefficient exponent ≤
      coefficient * 10 ^ exponent :=
    calc (10 : ℚ) ^ leadingExponent coefficient exponent
        = 10 ^ ((digitCount coefficient : Int) - 1) * 10 ^ exponent := by
          rw [← zpow_add₀ ten, leadingExponent]
          congr 1
          omega
      _ ≤ coefficient * 10 ^ exponent := mul_le_mul_of_nonneg_right below (le_of_lt unit)
  have high : (coefficient * 10 ^ exponent : ℚ) <
      ((10 : Nat) : ℚ) ^ (leadingExponent coefficient exponent + 1) :=
    calc (coefficient * 10 ^ exponent : ℚ)
        < ((coefficient + 1 : Nat) : ℚ) * 10 ^ exponent :=
          mul_lt_mul_of_pos_right (Nat.cast_lt.mpr (Nat.lt_succ_self _)) unit
      _ ≤ 10 ^ (digitCount coefficient : Int) * 10 ^ exponent :=
          mul_le_mul_of_nonneg_right above (le_of_lt unit)
      _ = 10 ^ (leadingExponent coefficient exponent + 1) := by
          rw [← zpow_add₀ ten, leadingExponent]
          congr 1
          omega
  have atMost := (Int.zpow_le_iff_le_log (by decide) value_pos).mp low
  have atLeast := (Int.lt_zpow_iff_log_lt (by decide) value_pos).mp high
  omega

/-- Two magnitudes compare as equal if they have the same value. -/
theorem compareMagnitude_eq_iff (positive : 0 < coefficient) (positive' : 0 < coefficient') :
    compareMagnitude coefficient exponent coefficient' exponent' = .eq ↔
      (coefficient * 10 ^ exponent : ℚ) = coefficient' * 10 ^ exponent' := by
  have ten : (10 : ℚ) ≠ 0 := by norm_num
  have aligned : coefficient * pow10 (exponent - exponent').toNat =
        coefficient' * pow10 (exponent' - exponent).toNat ↔
      (coefficient * 10 ^ exponent : ℚ) = coefficient' * 10 ^ exponent' := by
    have shift : (0 : ℚ) < 10 ^ (exponent' - exponent).toNat := by positivity
    have unit : (10 : ℚ) ^ exponent' ≠ 0 := by positivity
    have back : -(exponent - exponent') = exponent' - exponent := by omega
    rw [← @Nat.cast_inj ℚ, Nat.cast_mul, Nat.cast_mul, cast_pow10, cast_pow10,
      pow_toNat ten (exponent - exponent'), back, ← mul_assoc, mul_left_inj' (ne_of_gt shift),
      zpow_sub₀ ten, mul_div_assoc', div_eq_iff unit]
  have nonzero : ¬(coefficient = 0 ∨ coefficient' = 0) := by omega
  unfold compareMagnitude
  rw [if_neg nonzero]
  dsimp only
  split
  · next apart =>
    constructor
    · intro same
      exact absurd (compare_eq_iff_eq.mp same) apart
    · intro same
      rw [leadingExponent_eq_log positive, leadingExponent_eq_log positive', same] at apart
      exact absurd rfl apart
  · rw [compare_eq_iff_eq, aligned]

/-- Two finite numbers of the same sign compare as equal if they have the same value. -/
theorem compare?_eq_some_eq_iff (negative : Bool) :
    compare? (.finite negative coefficient exponent) (.finite negative coefficient' exponent') =
        some .eq ↔
      (coefficient * 10 ^ exponent : ℚ) = coefficient' * 10 ^ exponent' := by
  have zero_iff (coefficient : Nat) (exponent : Int) :
      (coefficient * 10 ^ exponent : ℚ) = 0 ↔ coefficient = 0 := by
    have unit : (10 : ℚ) ^ exponent ≠ 0 := by positivity
    rw [mul_eq_zero, Nat.cast_eq_zero, or_iff_left unit]
  rw [compare?]
  split
  · next both => simp [both.1, both.2]
  · next notBoth =>
    split
    · next zero =>
      have other : coefficient' ≠ 0 := fun zero' => notBoth ⟨zero, zero'⟩
      have apart := mt (zero_iff coefficient' exponent').mp other
      rw [zero, Nat.cast_zero, zero_mul]
      exact iff_of_false (by cases negative <;> decide) (Ne.symm apart)
    · next nonzero =>
      have positive := Nat.pos_of_ne_zero nonzero
      split
      · next zero =>
        have apart := mt (zero_iff coefficient exponent).mp nonzero
        rw [zero, Nat.cast_zero, zero_mul]
        exact iff_of_false (by cases negative <;> decide) apart
      · next nonzero' =>
        have positive' := Nat.pos_of_ne_zero nonzero'
        rw [if_neg (not_not_intro rfl)]
        cases negative with
        | true =>
          rw [if_pos rfl, Option.some_inj, compareMagnitude_eq_iff positive' positive, eq_comm]
        | false =>
          rw [if_neg Bool.false_ne_true, Option.some_inj,
            compareMagnitude_eq_iff positive positive']

/-- A finite number compares as equal to itself. -/
theorem compare?_self {d : Decimal} (finite : d.isFinite) : compare? d d = some .eq := by
  cases d with
  | finite negative => exact (compare?_eq_some_eq_iff negative).mpr rfl
  | _ => cases finite

/-- A number without a fraction compares as equal to the integer of its value. -/
theorem compare?_ofInt_signed (negative : Bool) (coefficient : Nat) {exponent : Int}
    (whole : 0 ≤ exponent) :
    compare? (.ofInt (signed negative (coefficient * pow10 exponent.toNat)))
      (.finite negative coefficient exponent) = some .eq := by
  by_cases zero : coefficient = 0
  · have nothing : signed negative (coefficient * pow10 exponent.toNat) = 0 := by
      rw [zero, Nat.zero_mul]
      cases negative <;> rfl
    rw [nothing, zero, ofInt, compare?, if_pos ⟨rfl, rfl⟩]
  · have positive : 0 < coefficient * pow10 exponent.toNat :=
      Nat.mul_pos (Nat.pos_of_ne_zero zero) (pow10_pos _)
    have integer : ofInt (signed negative (coefficient * pow10 exponent.toNat)) =
        .finite negative (coefficient * pow10 exponent.toNat) 0 := by
      unfold ofInt signed
      cases negative <;> simp <;> omega
    have scale : (10 : ℚ) ^ exponent = 10 ^ exponent.toNat := by
      rw [← zpow_natCast, Int.toNat_of_nonneg whole]
    rw [integer, compare?_eq_some_eq_iff, Nat.cast_mul, cast_pow10, zpow_zero, mul_one, scale]

end Stencil.Decimal
