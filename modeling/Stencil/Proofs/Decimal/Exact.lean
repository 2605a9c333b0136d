import Stencil.Proofs.Decimal.Finite
import Stencil.Proofs.Decimal.Value

/-!
# Exact sums of decimal numbers, and their order

A sum of two finite numbers is exact if its value can be held: if it is zero, or has no more
significant digits than a result keeps and a leading digit within the range. How many digits the
summands have and how far apart their exponents lie does not matter. Where the lower summand is
replaced by a unit of a far lower place, the sum has too many digits to be held, unless that summand
is zero.

Finite decimal numbers are compared by their exact values, whatever their signs, their digits and
the distance of their exponents are.
-/

namespace Stencil.Decimal

open Number

/-- A value that a result can hold: zero, or a number of few enough significant digits whose leading
digit is within the range. -/
inductive Fits : ℚ → Prop where
  /-- Zero. -/
  | zero : Fits 0
  /-- A number of few digits. -/
  | short {x : ℚ} {coefficient : ℕ} {exponent : ℤ} (value : |x| = coefficient * 10 ^ exponent)
    (few : digitCount coefficient ≤ precision) (low : minExponent ≤ Int.log 10 |x|)
    (high : Int.log 10 |x| ≤ maxExponent) : Fits x

section Places

variable {x y : ℚ} {place exponent : ℤ}

/-- A multiple of a power of ten is one of every lower power. -/
theorem mul_zpow_of_le (n : ℤ) (le : place ≤ exponent) :
    (n * 10 ^ exponent : ℚ) = (n * 10 ^ (exponent - place).toNat : ℤ) * 10 ^ place := by
  have scale : (10 : ℚ) ^ exponent = 10 ^ (exponent - place).toNat * 10 ^ place := by
    rw [← zpow_natCast, ← zpow_add₀ (by norm_num), Int.toNat_of_nonneg (by omega),
      sub_add_cancel]
  rw [Int.cast_mul, Int.cast_pow, Int.cast_ofNat, scale, mul_assoc]

/-- A number with digits down to some place is a multiple of every lower place. -/
theorem exists_multiple_of_le {coefficient : ℕ} (value : |x| = coefficient * 10 ^ exponent)
    (le : place ≤ exponent) : ∃ m : ℤ, x = m * 10 ^ place := by
  have lowered := mul_zpow_of_le (coefficient : ℤ) le
  rw [Int.cast_natCast, ← value] at lowered
  rcases abs_choice x with same | opposite
  · exact ⟨_, same.symm.trans lowered⟩
  · refine ⟨-(coefficient * 10 ^ (exponent - place).toNat : ℤ), ?_⟩
    rw [Int.cast_neg, neg_mul, ← lowered, opposite, neg_neg]

/-- A value that can be held is a multiple of the last place that is kept. -/
theorem Fits.exists_multiple (fits : Fits x) (nonzero : x ≠ 0)
    (kept : place + precision ≤ Int.log 10 |x| + 1) : ∃ m : ℤ, x = m * 10 ^ place := by
  cases fits with
  | zero => exact absurd rfl nonzero
  | @short _ coefficient exponent value few low high =>
    have positive : 0 < coefficient := by
      rw [Nat.pos_iff_ne_zero]
      rintro rfl
      rw [Nat.cast_zero, zero_mul, abs_eq_zero] at value
      exact nonzero value
    have above : place ≤ exponent := by
      rw [value, ← leadingExponent_eq_log positive, leadingExponent] at kept
      omega
    exact exists_multiple_of_le value above

/-- A multiple of a power of ten that lies below it is zero. -/
theorem eq_zero_of_multiple {m : ℤ} (value : x = m * 10 ^ place) (small : |x| < 10 ^ place) :
    x = 0 := by
  have unit : (0 : ℚ) < 10 ^ place := by positivity
  rw [value, abs_mul, abs_of_pos unit, mul_lt_iff_lt_one_left unit] at small
  have nothing : m = 0 := Int.abs_lt_one_iff.mp (by exact_mod_cast small)
  rw [value, nothing, Int.cast_zero, zero_mul]

end Places

section Values

variable {negative negative' : Bool} {coefficient coefficient' : Nat} {exponent exponent' : Int}

/-- A signed coefficient as a rational number. -/
theorem cast_signed (negative : Bool) (coefficient : Nat) :
    ((signed negative coefficient : ℤ) : ℚ) =
      if negative then -(coefficient : ℚ) else coefficient := by
  cases negative with
  | false => rfl
  | true => rw [signed_true, Int.cast_neg, Int.cast_natCast, if_pos rfl]

/-- The magnitude of a value. -/
theorem abs_toRat (negative : Bool) (coefficient : Nat) (exponent : Int) :
    |(finite negative coefficient exponent).toRat| = coefficient * 10 ^ exponent := by
  have nonneg : (0 : ℚ) ≤ coefficient * 10 ^ exponent := by positivity
  rw [toRat_finite, cast_signed]
  cases negative with
  | false => exact abs_of_nonneg nonneg
  | true => rw [if_pos rfl, neg_mul, abs_neg, abs_of_nonneg nonneg]

/-- A number with the same sign has the same value if its magnitude is the same. -/
theorem toRat_congr (negative : Bool)
    (same : (coefficient * 10 ^ exponent : ℚ) = coefficient' * 10 ^ exponent') :
    (finite negative coefficient exponent).toRat =
      (finite negative coefficient' exponent').toRat := by
  rw [toRat_finite, toRat_finite, cast_signed, cast_signed]
  cases negative with
  | false => exact same
  | true => rw [if_pos rfl, if_pos rfl, neg_mul, neg_mul, same]

/-- Zero has no value but zero. -/
theorem toRat_zero (negative : Bool) (exponent : Int) : (finite negative 0 exponent).toRat = 0 := by
  rw [← abs_eq_zero, abs_toRat, Nat.cast_zero, zero_mul]

end Values

/-- A number of few digits with its leading digit within the range can be held. -/
theorem Fits.of_few {negative : Bool} {coefficient : Nat} {exponent : Int}
    (positive : 0 < coefficient) (few : digitCount coefficient ≤ precision)
    (low : minExponent ≤ leadingExponent coefficient exponent)
    (high : leadingExponent coefficient exponent ≤ maxExponent) :
    Fits (finite negative coefficient exponent).toRat := by
  have value := abs_toRat negative coefficient exponent
  rw [leadingExponent_eq_log positive, ← value] at low high
  exact .short value few low high

section Settling

variable {negative : Bool} {coefficient : Nat} {exponent : Int}

/-- The leading digit of a value that can be held is within the range. -/
theorem Fits.leadingExponent_bounds (positive : 0 < coefficient)
    (fits : Fits (finite negative coefficient exponent).toRat) :
    minExponent ≤ leadingExponent coefficient exponent ∧
      leadingExponent coefficient exponent ≤ maxExponent := by
  have magnitude := abs_toRat negative coefficient exponent
  rw [leadingExponent_eq_log positive, ← magnitude]
  generalize (finite negative coefficient exponent).toRat = x at fits magnitude ⊢
  cases fits with
  | zero =>
    have some : (0 : ℚ) < coefficient * 10 ^ exponent := by positivity
    rw [abs_zero] at magnitude
    exact absurd magnitude some.ne
  | short value few low high => exact ⟨low, high⟩

/-- Where a value that can be held has too many digits, the last ones are zeros. -/
theorem Fits.exists_zeros {excess : Nat} (count : digitCount coefficient = precision + excess)
    (fits : Fits (finite negative coefficient exponent).toRat) :
    ∃ kept, coefficient = kept * pow10 excess := by
  rcases Nat.eq_zero_or_pos coefficient with rfl | positive
  · exact ⟨0, (Nat.zero_mul _).symm⟩
  have magnitude := abs_toRat negative coefficient exponent
  have nonzero : (finite negative coefficient exponent).toRat ≠ 0 := by
    rw [← abs_pos, magnitude]
    positivity
  have last : exponent + excess + precision ≤
      Int.log 10 |(finite negative coefficient exponent).toRat| + 1 := by
    rw [magnitude, ← leadingExponent_eq_log positive, leadingExponent]
    omega
  obtain ⟨m, multiple⟩ := fits.exists_multiple nonzero last
  have unit : (10 : ℚ) ^ exponent ≠ 0 := by positivity
  have place : (0 : ℚ) < 10 ^ (exponent + excess) := by positivity
  have scaled : (coefficient : ℚ) * 10 ^ exponent =
      ((m.natAbs * pow10 excess : Nat) : ℚ) * 10 ^ exponent := by
    rw [← magnitude, multiple, abs_mul, abs_of_pos place, Nat.cast_mul, cast_pow10,
      zpow_add₀ (by norm_num), zpow_natCast, Nat.cast_natAbs, Int.cast_abs]
    ring
  exact ⟨m.natAbs, by exact_mod_cast mul_right_cancel₀ unit scaled⟩

/-- Rounding drops zeros that are too many. -/
theorem settle_of_zeros {kept excess : Nat} (positive : 0 < kept) (some : 0 < excess)
    (count : digitCount (kept * pow10 excess) = precision + excess)
    (low : minExponent ≤ leadingExponent (kept * pow10 excess) exponent)
    (high : leadingExponent (kept * pow10 excess) exponent ≤ maxExponent) :
    settle negative (kept * pow10 excess) exponent =
      .ok (finite negative kept (exponent + excess)) := by
  have whole : 0 < kept * pow10 excess := Nat.mul_pos positive (pow10_pos excess)
  have more : ¬digitCount (kept * pow10 excess) ≤ precision := by omega
  have spare : digitCount (kept * pow10 excess) - precision = excess := by omega
  have dropped : dropDigits (kept * pow10 excess) excess = kept := by
    have enough : ¬(digitCount (kept * pow10 excess) : Int) < excess := by omega
    rw [dropDigits, if_neg enough, Int.toNat_natCast]
    exact roundHalfEven_mul _ (pow10_pos excess)
  have short : kept < pow10 precision := by
    have below : kept * pow10 excess < pow10 (precision + excess) :=
      (digitCount_le_iff (by omega)).mp count.le
    have split : pow10 (precision + excess) = pow10 precision * pow10 excess := Nat.pow_add ..
    rw [split] at below
    exact Nat.lt_of_mul_lt_mul_right below
  rw [settle, if_neg whole.ne']
  dsimp only
  rw [if_neg high.not_gt, if_neg low.not_gt, if_neg more, spare, dropped, if_neg short.ne]

/-- A value that can be held is kept by rounding. -/
theorem exists_settle (fits : Fits (finite negative coefficient exponent).toRat) :
    ∃ d, settle negative coefficient exponent = .ok d ∧
      d.toRat = (finite negative coefficient exponent).toRat := by
  rcases Nat.eq_zero_or_pos coefficient with rfl | positive
  · rw [settle, if_pos rfl]
    exact ⟨_, rfl, by rw [toRat_zero, toRat_zero]⟩
  obtain ⟨low, high⟩ := fits.leadingExponent_bounds positive
  by_cases few : digitCount coefficient ≤ precision
  · exact ⟨_, settle_of_fits positive.ne' few low high, rfl⟩
  · obtain ⟨excess, count⟩ := Nat.exists_eq_add_of_lt (Nat.lt_of_not_le few)
    rw [Nat.add_assoc] at count
    obtain ⟨kept, rfl⟩ := fits.exists_zeros count
    have some : 0 < kept := Nat.pos_of_mul_pos_right positive
    refine ⟨_, settle_of_zeros some (Nat.succ_pos excess) count low high, toRat_congr negative ?_⟩
    rw [Nat.cast_mul, cast_pow10, zpow_add₀ (by norm_num), zpow_natCast]
    ring

end Settling

section Condensing

variable {coefficient coefficient' : Nat} {exponent exponent' : Int}

/-- The place below which only the sign of a lower summand matters. -/
def farPlace (coefficient : Nat) (exponent : Int) : Int :=
  exponent - 1 +
    if precision < digitCount coefficient then 0 else (digitCount coefficient : Int) - precision - 1

/-- A lower summand whose leading digit lies below that place is condensed. -/
theorem condense_eq (coefficient coefficient' : Nat) (exponent exponent' : Int) :
    condense coefficient exponent coefficient' exponent' =
      if coefficient ≠ 0 ∧ leadingExponent coefficient' exponent' < farPlace coefficient exponent
      then (if coefficient' = 0 then 0 else 1, farPlace coefficient exponent)
      else (coefficient', exponent') := rfl

/-- A number keeps its leading digit, or has the one below it, when a summand far below is added. -/
theorem leading_le_abs_add {x y : ℚ} (positive : 0 < coefficient)
    (value : |x| = coefficient * 10 ^ exponent)
    (small : |y| ≤ 10 ^ (exponent + digitCount coefficient - 2)) :
    (10 : ℚ) ^ (exponent + digitCount coefficient - 2) ≤ |x + y| := by
  have large : (10 : ℚ) ^ (exponent + digitCount coefficient - 1) ≤ |x| := by
    rw [value]
    calc (10 : ℚ) ^ (exponent + digitCount coefficient - 1)
        = 10 ^ ((digitCount coefficient : Int) - 1) * 10 ^ exponent := by
          rw [← zpow_add₀ (by norm_num)]
          congr 1
          omega
      _ ≤ coefficient * 10 ^ exponent :=
          mul_le_mul_of_nonneg_right (digitCount_bounds positive).1 (by positivity)
  have ten : (10 : ℚ) ^ (exponent + digitCount coefficient - 1) =
      10 * 10 ^ (exponent + digitCount coefficient - 2) := by
    rw [← zpow_one_add₀ (by norm_num)]
    congr 1
    omega
  have unit : (0 : ℚ) < 10 ^ (exponent + digitCount coefficient - 2) := by positivity
  have apart := abs_sub_abs_le_abs_add x y
  linarith

/-- Where a summand lies so far below the other one that it is condensed, and the sum can be held,
that summand is zero. -/
theorem eq_zero_of_far {x y : ℚ} (positive : 0 < coefficient)
    (value : |x| = coefficient * 10 ^ exponent) (far : |y| < 10 ^ farPlace coefficient exponent)
    (fits : Fits (x + y)) : y = 0 := by
  have some : 0 < digitCount coefficient := Nat.length_toDigits_pos
  unfold farPlace at far
  have small : |y| ≤ 10 ^ (exponent + digitCount coefficient - 2) := by
    refine far.le.trans (zpow_le_zpow_right₀ (by norm_num) ?_)
    split <;> omega
  have leading := leading_le_abs_add positive value small
  have sum_pos : 0 < |x + y| := lt_of_lt_of_le (by positivity) leading
  have log : exponent + digitCount coefficient - 2 ≤ Int.log 10 |x + y| :=
    (Int.zpow_le_iff_le_log (by decide) sum_pos).mp (by exact_mod_cast leading)
  -- the last place of the sum that is kept, as far as the other summand reaches it
  let place : Int := min exponent (exponent + digitCount coefficient - precision - 1)
  have below : |y| < 10 ^ place := by
    refine far.trans_le (zpow_le_zpow_right₀ (by norm_num) ?_)
    split <;> omega
  have kept : place + precision ≤ Int.log 10 |x + y| + 1 := by omega
  obtain ⟨m, sum⟩ := fits.exists_multiple (abs_pos.mp sum_pos) kept
  obtain ⟨n, summand⟩ := exists_multiple_of_le value (min_le_left _ _ : place ≤ exponent)
  refine eq_zero_of_multiple (m := m - n) ?_ below
  rw [Int.cast_sub, sub_mul, ← sum, ← summand, add_sub_cancel_left]

/-- Condensing a summand changes nothing where the sum can be held. -/
theorem condense_value {x y : ℚ} (value : |x| = coefficient * 10 ^ exponent)
    (value' : |y| = coefficient' * 10 ^ exponent') (fits : Fits (x + y)) :
    ((condense coefficient exponent coefficient' exponent').1 : ℚ) *
        10 ^ (condense coefficient exponent coefficient' exponent').2 =
      coefficient' * 10 ^ exponent' := by
  rw [condense_eq]
  split
  · next far =>
    obtain ⟨nonzero, far⟩ := far
    have nothing : y = 0 := by
      rcases Nat.eq_zero_or_pos coefficient' with rfl | positive'
      · rw [← abs_eq_zero, value', Nat.cast_zero, zero_mul]
      · refine eq_zero_of_far (Nat.pos_of_ne_zero nonzero) value ?_ fits
        have magnitude : (0 : ℚ) < coefficient' * 10 ^ exponent' := by positivity
        rw [leadingExponent_eq_log positive'] at far
        have below := (Int.lt_zpow_iff_log_lt (b := 10) (by decide) magnitude).mpr far
        rw [value']
        exact_mod_cast below
    rw [nothing, abs_zero] at value'
    have zero : coefficient' = 0 := by
      have unit : (10 : ℚ) ^ exponent' ≠ 0 := by positivity
      exact_mod_cast (mul_eq_zero.mp value'.symm).resolve_right unit
    rw [if_pos zero, zero, Nat.cast_zero, zero_mul, zero_mul]
  · rfl

/-- A condensed summand lies no higher than the other one. -/
theorem condense_le (coefficient coefficient' : Nat) (le : exponent' ≤ exponent) :
    (condense coefficient exponent coefficient' exponent').2 ≤ exponent := by
  rw [condense_eq]
  split
  · dsimp only [farPlace]
    split <;> omega
  · exact le

end Condensing

section Adding

variable {negative negative' : Bool} {coefficient coefficient' : Nat} {exponent exponent' : Int}

/-- The sum of aligned numbers is settled from the exact sum of the higher one and the lower one as
it is after condensing. -/
theorem exists_addAligned_eq_settle (negative negative' : Bool) (coefficient coefficient' : Nat)
    (le : exponent' ≤ exponent) :
    ∃ sign total place,
      addAligned negative coefficient exponent negative' coefficient' exponent' =
        settle sign total place ∧
      (finite sign total place).toRat = (finite negative coefficient exponent).toRat +
        (finite negative' (condense coefficient exponent coefficient' exponent').1
          (condense coefficient exponent coefficient' exponent').2).toRat := by
  have below := condense_le coefficient coefficient' le
  unfold addAligned
  dsimp only
  generalize condense coefficient exponent coefficient' exponent' = condensed at below ⊢
  obtain ⟨low, quantum⟩ := condensed
  dsimp only at below ⊢
  -- the higher summand in units of the common exponent
  have raised : ((if coefficient = 0 then 0
      else coefficient * pow10 (exponent - quantum).toNat : Nat) : ℚ) * 10 ^ quantum =
      coefficient * 10 ^ exponent := by
    split
    · next zero => rw [zero, Nat.cast_zero, zero_mul, zero_mul]
    · have lowered := mul_zpow_of_le (coefficient : ℤ) below
      rw [Nat.cast_mul, cast_pow10]
      push_cast at lowered
      exact lowered.symm
  generalize (if coefficient = 0 then 0 else coefficient * pow10 (exponent - quantum).toNat) = high
    at raised ⊢
  rw [toRat_congr negative raised.symm]
  split
  · next same =>
    subst same
    refine ⟨negative, high + low, quantum, rfl, ?_⟩
    rw [toRat_finite, toRat_finite, toRat_finite, ← add_mul, cast_signed, cast_signed,
      cast_signed, Nat.cast_add]
    cases negative with
    | false => rfl
    | true => rw [if_pos rfl, if_pos rfl, if_pos rfl, neg_add]
  · refine ⟨_, _, quantum, rfl, ?_⟩
    rw [toRat_finite, signed_ofInt, toRat_finite, toRat_finite, ← add_mul, Int.cast_add]

/-- The sum of aligned numbers is exact if it can be held. -/
theorem exists_addAligned (le : exponent' ≤ exponent)
    (fits : Fits ((finite negative coefficient exponent).toRat +
      (finite negative' coefficient' exponent').toRat)) :
    ∃ d, addAligned negative coefficient exponent negative' coefficient' exponent' = .ok d ∧
      d.toRat = (finite negative coefficient exponent).toRat +
        (finite negative' coefficient' exponent').toRat := by
  have kept := condense_value (abs_toRat negative coefficient exponent)
    (abs_toRat negative' coefficient' exponent') fits
  obtain ⟨sign, total, place, settled, value⟩ :=
    exists_addAligned_eq_settle negative negative' coefficient coefficient' le
  rw [toRat_congr negative' kept] at value
  rw [settled, ← value]
  exact exists_settle (value ▸ fits)

/-- The sum of two finite numbers is exact if it can be held. -/
theorem exists_add {a b : Decimal} (first : a.isFinite) (second : b.isFinite)
    (fits : Fits (a.toRat + b.toRat)) :
    ∃ d, a.add b = .ok d ∧ d.isFinite ∧ d.toRat = a.toRat + b.toRat := by
  have exact : ∃ d, a.add b = .ok d ∧ d.toRat = a.toRat + b.toRat := by
    obtain ⟨negative, coefficient, exponent, rfl⟩ := exists_of_isFinite first
    obtain ⟨negative', coefficient', exponent', rfl⟩ := exists_of_isFinite second
    rw [add]
    split
    · next le => exact exists_addAligned le fits
    · next above =>
      rw [add_comm] at fits ⊢
      exact exists_addAligned (by omega) fits
  obtain ⟨d, sum, value⟩ := exact
  exact ⟨d, sum, isFinite_add first second sum, value⟩

end Adding

end Stencil.Decimal

namespace Stencil.Decimal

open Number

variable {coefficient coefficient' : Nat} {exponent exponent' : Int}

/-- A larger leading digit makes a larger magnitude. -/
theorem magnitude_lt_of_leading (positive : 0 < coefficient) (positive' : 0 < coefficient')
    (less : leadingExponent coefficient exponent < leadingExponent coefficient' exponent') :
    (coefficient * 10 ^ exponent : ℚ) < coefficient' * 10 ^ exponent' := by
  have value_pos : (0 : ℚ) < coefficient' * 10 ^ exponent' := by positivity
  rw [leadingExponent_eq_log positive, leadingExponent_eq_log positive'] at less
  by_contra notBelow
  exact less.not_ge (Int.log_mono_right value_pos (not_lt.mp notBelow))

/-- Two magnitudes are compared by their values. -/
theorem compareMagnitude_eq_lt_iff (positive : 0 < coefficient) (positive' : 0 < coefficient') :
    compareMagnitude coefficient exponent coefficient' exponent' = .lt ↔
      (coefficient * 10 ^ exponent : ℚ) < coefficient' * 10 ^ exponent' := by
  have ten : (10 : ℚ) ≠ 0 := by norm_num
  have aligned : coefficient * pow10 (exponent - exponent').toNat <
        coefficient' * pow10 (exponent' - exponent).toNat ↔
      (coefficient * 10 ^ exponent : ℚ) < coefficient' * 10 ^ exponent' := by
    have shift : (0 : ℚ) < 10 ^ (exponent' - exponent).toNat := by positivity
    have unit : (0 : ℚ) < 10 ^ exponent' := by positivity
    have back : -(exponent - exponent') = exponent' - exponent := by omega
    rw [← @Nat.cast_lt ℚ, Nat.cast_mul, Nat.cast_mul, cast_pow10, cast_pow10,
      pow_toNat ten (exponent - exponent'), back, ← mul_assoc, mul_lt_mul_iff_left₀ shift,
      zpow_sub₀ ten, mul_div_assoc', div_lt_iff₀ unit]
  have nonzero : ¬(coefficient = 0 ∨ coefficient' = 0) := by omega
  unfold compareMagnitude
  rw [if_neg nonzero]
  dsimp only
  split
  · next apart =>
    rw [compare_lt_iff_lt]
    refine ⟨magnitude_lt_of_leading positive positive', fun below => ?_⟩
    by_contra notLess
    have above := lt_of_le_of_ne (not_lt.mp notLess) (Ne.symm apart)
    exact below.not_gt (magnitude_lt_of_leading positive' positive above)
  · rw [compare_lt_iff_lt, aligned]

/-- Of two finite numbers the first is below the second exactly if its value is. -/
theorem compare?_eq_some_lt_iff (negative : Bool) (coefficient : Nat) (exponent : Int)
    (negative' : Bool) (coefficient' : Nat) (exponent' : Int) :
    compare? (.finite negative coefficient exponent) (.finite negative' coefficient' exponent') =
        some .lt ↔
      (finite negative coefficient exponent).toRat <
        (finite negative' coefficient' exponent').toRat := by
  have zero (negative : Bool) (exponent : Int) : (finite negative 0 exponent).toRat = 0 :=
    toRat_zero negative exponent
  have sign (coefficient : Nat) (exponent : Int) (positive : 0 < coefficient) :
      0 < (finite false coefficient exponent).toRat ∧
        (finite true coefficient exponent).toRat < 0 := by
    have magnitude : (0 : ℚ) < coefficient * 10 ^ exponent := by positivity
    rw [toRat_finite, toRat_finite, cast_signed, cast_signed, if_pos rfl, neg_mul]
    exact ⟨magnitude, neg_neg_of_pos magnitude⟩
  rw [compare?]
  split
  · next both =>
    rw [both.1, both.2, zero, zero]
    simp
  next notBoth =>
  split
  · next nothing =>
    have positive' := Nat.pos_of_ne_zero fun nothing' => notBoth ⟨nothing, nothing'⟩
    obtain ⟨above, below⟩ := sign coefficient' exponent' positive'
    rw [nothing, zero]
    cases negative' with
    | false => simpa using above
    | true => simpa using below.le
  next some =>
  have positive := Nat.pos_of_ne_zero some
  obtain ⟨above, below⟩ := sign coefficient exponent positive
  split
  · next nothing' =>
    rw [nothing', zero]
    cases negative with
    | false => simpa using above.le
    | true => simpa using below
  next some' =>
  have positive' := Nat.pos_of_ne_zero some'
  obtain ⟨above', below'⟩ := sign coefficient' exponent' positive'
  cases negative with
  | false =>
    cases negative' with
    | false =>
      simp only [ne_eq, not_true_eq_false, if_false, Bool.false_eq_true, Option.some_inj]
      rw [compareMagnitude_eq_lt_iff positive positive']
      rfl
    | true => simpa using (below'.trans above).le
  | true =>
    cases negative' with
    | false => simpa using below.trans above'
    | true =>
      simp only [ne_eq, not_true_eq_false, if_false, if_true, Option.some_inj]
      rw [compareMagnitude_eq_lt_iff positive' positive, toRat_finite, toRat_finite, cast_signed,
        cast_signed, if_pos rfl, if_pos rfl, neg_mul, neg_mul, neg_lt_neg_iff]

/-- Comparing finite numbers compares their values. -/
theorem less_eq {a b : Decimal} (first : a.isFinite) (second : b.isFinite) :
    a.less b = .ok (decide (a.toRat < b.toRat)) := by
  obtain ⟨negative, coefficient, exponent, rfl⟩ := exists_of_isFinite first
  obtain ⟨negative', coefficient', exponent', rfl⟩ := exists_of_isFinite second
  have below := compare?_eq_some_lt_iff negative coefficient exponent negative' coefficient'
    exponent'
  unfold less
  cases order : compare? (.finite negative coefficient exponent)
      (.finite negative' coefficient' exponent') with
  | none =>
    unfold compare? at order
    grind
  | some found =>
    rw [order, Option.some_inj] at below
    rw [← decide_eq_decide.mpr below]
    cases found <;> rfl

end Stencil.Decimal
