import Mathlib.Algebra.Order.Floor.Semifield
import Stencil.Binary64.Text
import Stencil.Proofs.Binary64.Rounding

/-!
# The shortest decimal is rounded back

The search through the grids of decimal numbers stops at the first grid that has a number inside the
interval of the binary number. Seventeen digits are always enough, so what it finds is rounded to
the binary number again.
-/

namespace Stencil.Binary64

open Number

/-- The interval holds the ratios between its ends. -/
theorem Interval.contains_iff (i : Interval) (positive : 0 < i.denominator) (numerator : Nat)
    {denominator : Nat} (positive' : 0 < denominator) :
    i.contains numerator denominator = true ↔
      IsBetween i.closed ((i.low : ℚ) / i.denominator) ((i.high : ℚ) / i.denominator)
        ((numerator : ℚ) / denominator) := by
  have i_pos : (0 : ℚ) < i.denominator := Nat.cast_pos.mpr positive
  have d_pos : (0 : ℚ) < denominator := Nat.cast_pos.mpr positive'
  have le (a b : Nat) : a * denominator ≤ b * i.denominator ↔
      (a : ℚ) / i.denominator ≤ (b : ℚ) / denominator := by
    rw [div_le_div_iff₀ i_pos d_pos]
    exact_mod_cast Iff.rfl
  have le' (a b : Nat) : b * i.denominator ≤ a * denominator ↔
      (b : ℚ) / denominator ≤ (a : ℚ) / i.denominator := by
    rw [div_le_div_iff₀ d_pos i_pos]
    exact_mod_cast Iff.rfl
  have lt (a b : Nat) : a * denominator < b * i.denominator ↔
      (a : ℚ) / i.denominator < (b : ℚ) / denominator := by
    rw [← Nat.not_le, le', not_le]
  have lt' (a b : Nat) : b * i.denominator < a * denominator ↔
      (b : ℚ) / denominator < (a : ℚ) / i.denominator := by
    rw [← Nat.not_le, le, not_le]
  unfold Interval.contains IsBetween
  cases i.closed with
  | true => simp only [if_true, Bool.and_eq_true, decide_eq_true_eq, le, le']
  | false =>
    simp only [Bool.false_eq_true, if_false, Bool.and_eq_true, decide_eq_true_eq, lt, lt']

section Ends

variable {significand : Nat} {exponent : Int}

/-- The denominator of an interval is positive. -/
theorem denominator_pos (significand : Nat) (exponent : Int) :
    0 < (interval significand exponent).denominator :=
  Nat.mul_pos (by decide) (magnitude_pos significand exponent)

/-- A multiple of the unit, in quarters over four times the denominator. -/
theorem cast_quarters (x : ℚ) (exponent : Int) :
    4 * x * 2 ^ exponent.toNat / (4 * 2 ^ (-exponent).toNat) = x * 2 ^ exponent := by
  have shift : (2 : ℚ) ^ (-exponent).toNat ≠ 0 := by positivity
  rw [pow_toNat two_ne_zero exponent, ← mul_assoc, mul_div_mul_right _ _ shift]
  ring

/-- The centre of the interval is the number. -/
theorem cast_centre (significand : Nat) (exponent : Int) :
    ((interval significand exponent).centre : ℚ) / (interval significand exponent).denominator =
      significand * 2 ^ exponent := by
  unfold interval magnitude
  dsimp only
  push_cast [cast_pow2]
  rw [← mul_assoc]
  exact cast_quarters significand exponent

/-- The lower end of the interval. -/
theorem cast_low (positive : 0 < significand) :
    ((interval significand exponent).low : ℚ) / (interval significand exponent).denominator =
      (significand - reachBelow significand exponent) * 2 ^ exponent := by
  have unit := pow2_pos exponent.toNat
  have enough : 2 * pow2 exponent.toNat ≤ 4 * (significand * pow2 exponent.toNat) := by
    have := Nat.mul_le_mul_right (pow2 exponent.toNat) (Nat.succ_le_of_lt positive)
    omega
  rw [← cast_quarters]
  unfold interval magnitude reachBelow
  dsimp only
  by_cases narrow : significand = pow2 52 ∧ minExponent < exponent
  · have holds : (decide (significand = pow2 52) && decide (minExponent < exponent)) = true := by
      simpa using narrow
    rw [if_pos narrow, if_pos holds, Nat.cast_sub (by omega)]
    push_cast [cast_pow2]
    ring
  · have fails : ¬(decide (significand = pow2 52) && decide (minExponent < exponent)) = true := by
      simpa using narrow
    rw [if_neg narrow, if_neg fails, Nat.cast_sub enough]
    push_cast [cast_pow2]
    ring

/-- The upper end of the interval. -/
theorem cast_high (significand : Nat) (exponent : Int) :
    ((interval significand exponent).high : ℚ) / (interval significand exponent).denominator =
      (significand + 1 / 2) * 2 ^ exponent := by
  rw [← cast_quarters]
  unfold interval magnitude
  dsimp only
  push_cast [cast_pow2]
  ring

/-- The interval of a positive number holds what is inside. -/
theorem contains_interval_iff (positive : 0 < significand) (n : Nat) (power : Int) :
    (interval significand exponent).contains (n * pow10 power.toNat) (pow10 (-power).toNat) =
        true ↔
      IsInside significand exponent (n * 10 ^ power) := by
  rw [Interval.contains_iff _ (denominator_pos _ _) _ (pow10_pos _), cast_low positive, cast_high,
    cast_scientific]
  rfl

/-- A number is inside its own interval. -/
theorem isInside_self (significand : Nat) (exponent : Int) :
    IsInside significand exponent (significand * 2 ^ exponent) := by
  have unit : (2 : ℚ) ^ exponent ≠ 0 := by positivity
  have reach : 0 < reachBelow significand exponent := by
    unfold reachBelow
    split <;> norm_num
  rw [isInside_iff, mul_div_cancel_right₀ _ unit]
  exact .of_lt (by linarith) (by linarith)

end Ends

section Grid

variable {significand : Nat} {exponent power : Int} {n : Nat}

/-- The neighbour below on the grid of a power of ten. -/
def floorOnGrid (significand : Nat) (exponent power : Int) : Nat :=
  (interval significand exponent).centre * pow10 (-power).toNat /
    ((interval significand exponent).denominator * pow10 power.toNat)

/-- The number lies between its neighbours on a grid. -/
theorem floorOnGrid_bounds (significand : Nat) (exponent power : Int) :
    floorOnGrid significand exponent power * 10 ^ power ≤ (significand * 2 ^ exponent : ℚ) ∧
      (significand * 2 ^ exponent : ℚ) <
        ((floorOnGrid significand exponent power + 1 : Nat) : ℚ) * 10 ^ power := by
  have unit : (0 : ℚ) < 10 ^ power := by positivity
  have d_pos : (0 : ℚ) < (interval significand exponent).denominator :=
    Nat.cast_pos.mpr (denominator_pos significand exponent)
  have shift : (10 : ℚ) ^ (-power).toNat ≠ 0 := by positivity
  have ratio : (((interval significand exponent).centre * pow10 (-power).toNat : Nat) : ℚ) /
      ((interval significand exponent).denominator * pow10 power.toNat : Nat) =
        significand * 2 ^ exponent / 10 ^ power := by
    rw [← cast_centre, Nat.cast_mul, Nat.cast_mul, cast_pow10, cast_pow10,
      pow_toNat (by norm_num) power, div_div, ← mul_assoc, mul_div_mul_right _ _ shift]
  have floor : floorOnGrid significand exponent power =
      ⌊(significand * 2 ^ exponent / 10 ^ power : ℚ)⌋₊ := by
    rw [← ratio, Nat.floor_div_eq_div]
    rfl
  have nonneg : (0 : ℚ) ≤ significand * 2 ^ exponent / 10 ^ power := by positivity
  rw [floor]
  constructor
  · rw [← le_div_iff₀ unit]
    exact Nat.floor_le nonneg
  · rw [← div_lt_iff₀ unit, Nat.cast_succ]
    exact Nat.lt_floor_add_one _

/-- A number of a grid passes the test of the search if it is positive and inside. -/
theorem isTaken_iff (positive : 0 < significand) {m : Nat} :
    (decide (m ≠ 0) && (interval significand exponent).contains
        (m * pow10 power.toNat) (pow10 (-power).toNat)) = true ↔
      m ≠ 0 ∧ IsInside significand exponent (m * 10 ^ power) := by
  rw [Bool.and_eq_true, decide_eq_true_eq, contains_interval_iff positive]

/-- What is found on a grid is inside, and one of the two neighbours of the number. -/
theorem of_nearestOnGrid? (positive : 0 < significand)
    (h : nearestOnGrid? (interval significand exponent) power = some n) :
    n ≠ 0 ∧ IsInside significand exponent (n * 10 ^ power) ∧
      n ≤ floorOnGrid significand exponent power + 1 := by
  unfold nearestOnGrid? at h
  dsimp only at h
  split at h
  · next first second =>
    have below := (isTaken_iff positive).mp first
    have above := (isTaken_iff positive).mp second
    split at h
    · cases h
      exact ⟨below.1, below.2, Nat.le_succ _⟩
    · split at h
      · cases h
        exact ⟨above.1, above.2, Nat.le_refl _⟩
      · split at h
        · cases h
          exact ⟨below.1, below.2, Nat.le_succ _⟩
        · cases h
          exact ⟨above.1, above.2, Nat.le_refl _⟩
  · next first _ =>
    cases h
    have below := (isTaken_iff positive).mp first
    exact ⟨below.1, below.2, Nat.le_succ _⟩
  · next _ second =>
    cases h
    have above := (isTaken_iff positive).mp second
    exact ⟨above.1, above.2, Nat.le_refl _⟩
  · cases h

/-- If a number of a grid is inside, so is one of the two neighbours on the grid: the one on the
side of that number lies between it and the centre. -/
theorem isInside_neighbour {m : Nat} (nonzero : m ≠ 0)
    (inside : IsInside significand exponent (m * 10 ^ power)) :
    (floorOnGrid significand exponent power ≠ 0 ∧
        IsInside significand exponent (floorOnGrid significand exponent power * 10 ^ power)) ∨
      IsInside significand exponent
        ((floorOnGrid significand exponent power + 1 : Nat) * 10 ^ power) := by
  obtain ⟨low, high⟩ := floorOnGrid_bounds significand exponent power
  have unit : (0 : ℚ) < 10 ^ power := by positivity
  have self := isInside_self significand exponent
  generalize floorOnGrid significand exponent power = below at low high ⊢
  rcases le_or_gt ((m : ℚ) * 10 ^ power) (significand * 2 ^ exponent) with left | right
  · have lt : (m : ℚ) < ((below + 1 : Nat) : ℚ) :=
      lt_of_mul_lt_mul_right (lt_of_le_of_lt left high) (le_of_lt unit)
    have le : m ≤ below := Nat.lt_succ_iff.mp (by exact_mod_cast lt)
    have le' : (m : ℚ) ≤ below := Nat.cast_le.mpr le
    exact .inl ⟨by omega,
      inside.convex self (mul_le_mul_of_nonneg_right le' (le_of_lt unit)) low⟩
  · have lt : (below : ℚ) < m :=
      lt_of_mul_lt_mul_right (lt_of_le_of_lt low right) (le_of_lt unit)
    have le : ((below + 1 : Nat) : ℚ) ≤ m := by
      have : below < m := by exact_mod_cast lt
      exact_mod_cast this
    exact .inr (self.convex inside (le_of_lt high)
      (mul_le_mul_of_nonneg_right le (le_of_lt unit)))

/-- A number is found on a grid that has one inside. -/
theorem nearestOnGrid?_ne_none (positive : 0 < significand) {m : Nat} (nonzero : m ≠ 0)
    (inside : IsInside significand exponent (m * 10 ^ power)) :
    nearestOnGrid? (interval significand exponent) power ≠ none := by
  have found := (isInside_neighbour nonzero inside).imp (isTaken_iff positive).mpr
    fun above => (isTaken_iff positive).mpr ⟨Nat.succ_ne_zero _, above⟩
  unfold floorOnGrid at found
  unfold nearestOnGrid?
  dsimp only
  split
  · split
    · exact Option.some_ne_none _
    · split
      · exact Option.some_ne_none _
      · split <;> exact Option.some_ne_none _
  · exact Option.some_ne_none _
  · exact Option.some_ne_none _
  · next first second =>
    rw [first, second] at found
    rcases found with h | h <;> cases h

end Grid

section Search

variable {significand : Nat} {exponent : Int}

/-- The search stops at the first grid with a number inside, if there is one among the grids it
tries. -/
theorem searchGrid_spec (i : Interval) (tries : Nat) {start stop : Int}
    (least : start - tries < stop) (below : stop ≤ start) (found : nearestOnGrid? i stop ≠ none) :
    nearestOnGrid? i (searchGrid tries i start).2 = some (searchGrid tries i start).1 ∧
      stop ≤ (searchGrid tries i start).2 ∧ (searchGrid tries i start).2 ≤ start := by
  induction tries generalizing start with
  | zero => omega
  | succ tries ih =>
    unfold searchGrid
    split
    · next n here => exact ⟨here, below, le_refl _⟩
    · next nothing =>
      have other : stop ≠ start := by
        rintro rfl
        exact found nothing
      obtain ⟨here, above, fine⟩ := @ih (start - 1) (by omega) (by omega)
      exact ⟨here, above, by omega⟩

/-- The positive numbers lie between the powers of ten of four hundred places on either side. -/
theorem value_bounds (formed : IsFormed significand exponent) (positive : 0 < significand) :
    (10 : ℚ) ^ (-400 : Int) ≤ significand * 2 ^ exponent ∧
      (significand : ℚ) * 2 ^ exponent < 10 ^ (400 : Int) := by
  have one : (1 : ℚ) ≤ significand := Nat.one_le_cast.mpr positive
  have short : (significand : ℚ) < 2 ^ (53 : Int) := formed.cast_lt
  have unit : (0 : ℚ) < 2 ^ exponent := by positivity
  have eight : (8 : ℚ) ^ (400 : Int) = 2 ^ (1200 : Int) := by
    rw [show (8 : ℚ) = 2 ^ (3 : Int) by norm_num, ← zpow_mul]
    norm_num
  have ten : (2 : ℚ) ^ (1200 : Int) ≤ 10 ^ (400 : Int) := by
    rw [← eight]
    exact zpow_le_zpow_left₀ (by norm_num) (by norm_num) (by norm_num)
  constructor
  · calc (10 : ℚ) ^ (-400 : Int) ≤ 2 ^ (-1200 : Int) := by
          rw [zpow_neg, zpow_neg]
          exact inv_anti₀ (by positivity) ten
      _ ≤ 2 ^ exponent := by
          have := formed.low
          simp only [minExponent] at this
          exact zpow_le_zpow_right₀ one_le_two (by omega)
      _ ≤ significand * 2 ^ exponent := le_mul_of_one_le_left (le_of_lt unit) one
  · calc (significand : ℚ) * 2 ^ exponent < 2 ^ (53 : Int) * 2 ^ exponent :=
          mul_lt_mul_of_pos_right short unit
      _ = 2 ^ (53 + exponent) := (zpow_add₀ two_ne_zero _ _).symm
      _ ≤ 2 ^ (1200 : Int) := by
          have := formed.high
          simp only [maxExponent] at this
          exact zpow_le_zpow_right₀ one_le_two (by omega)
      _ ≤ 10 ^ (400 : Int) := ten

/-- The leading decimal digit of a number is the one of its power of ten. -/
theorem leadingDigit_bounds (formed : IsFormed significand exponent) (positive : 0 < significand) :
    10 ^ leadingDigit (interval significand exponent) ≤ (significand * 2 ^ exponent : ℚ) ∧
      (significand * 2 ^ exponent : ℚ) <
        10 ^ (leadingDigit (interval significand exponent) + 1) := by
  -- the digits of the number on the grid of four hundred places
  have floor : (interval significand exponent).centre * pow10 400 /
      (interval significand exponent).denominator =
        floorOnGrid significand exponent (-400) := by
    rw [floorOnGrid]
    congr 1
    exact (Nat.mul_one _).symm
  obtain ⟨low, high⟩ := floorOnGrid_bounds significand exponent (-400)
  have small := (value_bounds formed positive).1
  unfold leadingDigit
  rw [floor]
  generalize floorOnGrid significand exponent (-400) = m at low high
  generalize (significand * 2 ^ exponent : ℚ) = x at low high small
  have unit : (0 : ℚ) < 10 ^ (-400 : Int) := by positivity
  have m_pos : 0 < m := by
    by_contra zero
    have zero : m = 0 := by omega
    rw [zero, Nat.zero_add, Nat.cast_one, one_mul] at high
    linarith
  obtain ⟨below, above⟩ := digitCount_bounds m_pos
  have ten : (10 : ℚ) ≠ 0 := by norm_num
  constructor
  · calc (10 : ℚ) ^ ((digitCount m : Int) - 401)
        = 10 ^ ((digitCount m : Int) - 1) * 10 ^ (-400 : Int) := by
          rw [← zpow_add₀ ten]
          congr 1
          omega
      _ ≤ m * 10 ^ (-400 : Int) := mul_le_mul_of_nonneg_right below (le_of_lt unit)
      _ ≤ x := low
  · calc x < ((m + 1 : Nat) : ℚ) * 10 ^ (-400 : Int) := high
      _ ≤ 10 ^ (digitCount m : Int) * 10 ^ (-400 : Int) :=
          mul_le_mul_of_nonneg_right above (le_of_lt unit)
      _ = 10 ^ ((digitCount m : Int) - 401 + 1) := by
          rw [← zpow_add₀ ten]
          congr 1
          omega

/-- Some multiple of a step is the last one below a positive number. -/
theorem exists_last_multiple {step high : ℚ} (step_pos : 0 < step) (high_pos : 0 < high) :
    ∃ j : Nat, j * step < high ∧ high ≤ (j + 1) * step := by
  have ceil_pos : 1 ≤ ⌈high / step⌉₊ := Nat.one_le_ceil_iff.mpr (div_pos high_pos step_pos)
  refine ⟨⌈high / step⌉₊ - 1, ?_, ?_⟩
  · have := Nat.ceil_lt_add_one (le_of_lt (div_pos high_pos step_pos))
    rw [Nat.cast_sub ceil_pos, Nat.cast_one, ← lt_div_iff₀ step_pos]
    linarith
  · rw [Nat.cast_sub ceil_pos, Nat.cast_one, sub_add_cancel, ← div_le_iff₀ step_pos]
    exact Nat.le_ceil _

/-- A number of seventeen digits is inside, for the interval is wider than a step of its grid. -/
theorem exists_isInside_seventeen (formed : IsFormed significand exponent)
    (positive : 0 < significand) :
    ∃ j : Nat, j ≠ 0 ∧ IsInside significand exponent
      (j * 10 ^ (leadingDigit (interval significand exponent) - 16)) := by
  have large := (leadingDigit_bounds formed positive).1
  have unit : (0 : ℚ) < 2 ^ exponent := by positivity
  have one : (1 : ℚ) ≤ significand := Nat.one_le_cast.mpr positive
  have short := formed.cast_lt
  have split : (10 : ℚ) ^ leadingDigit (interval significand exponent) =
      10 ^ (leadingDigit (interval significand exponent) - 16) * 10 ^ 16 := by
    rw [← zpow_natCast 10 16, ← zpow_add₀ (by norm_num)]
    congr 1
    omega
  rw [split] at large
  have step_pos : (0 : ℚ) < 10 ^ (leadingDigit (interval significand exponent) - 16) := by
    positivity
  generalize (10 : ℚ) ^ (leadingDigit (interval significand exponent) - 16) = step at *
  have reach : step < (1 / 2 + reachBelow significand exponent) * 2 ^ exponent := by
    have fits : step * 10 ^ 16 < 10 ^ 16 * 2 ^ exponent := by
      refine lt_of_le_of_lt large ?_
      exact mul_lt_mul_of_pos_right (lt_trans short (by norm_num)) unit
    unfold reachBelow
    split
    · next narrow =>
      -- at a power of two the interval is narrower, but the number has only fifty-two digits more
      have value : (significand : ℚ) = 2 ^ 52 := by rw [narrow.1, cast_pow2]
      rw [value] at large
      linarith
    · linarith
  let high : ℚ := (significand + 1 / 2) * 2 ^ exponent
  have high_pos : 0 < high := by positivity
  have low_pos : 0 < (significand - reachBelow significand exponent) * 2 ^ exponent := by
    refine mul_pos ?_ unit
    unfold reachBelow
    split <;> linarith
  -- the last multiple of the step below the upper end
  obtain ⟨j, below, above⟩ := exists_last_multiple step_pos high_pos
  have inside : (significand - reachBelow significand exponent) * 2 ^ exponent < j * step := by
    have : high - step ≤ j * step := by linarith
    have width : high - (significand - reachBelow significand exponent) * 2 ^ exponent =
        (1 / 2 + reachBelow significand exponent) * 2 ^ exponent := by ring
    linarith
  refine ⟨j, ?_, .of_lt inside below⟩
  rintro rfl
  rw [Nat.cast_zero, zero_mul] at inside
  linarith

/-- What the search for the shortest decimal finds: a positive number inside, on a grid of at most
seventeen digits, and on the coarsest grid that has one. -/
structure IsShortest (significand : Nat) (exponent : Int) (n : Nat) (power : Int) : Prop where
  /-- The number is not zero. -/
  positive : 0 < n
  /-- The number is rounded to the binary number again. -/
  inside : IsInside significand exponent (n * 10 ^ power)
  /-- The number has at most seventeen digits, or it is the least of eighteen. -/
  few : n ≤ pow10 17
  /-- The grid is one of those with at most seventeen digits. -/
  fine : leadingDigit (interval significand exponent) < power + 17
  /-- No coarser grid is tried than the one of the leading digit. -/
  coarse : power ≤ leadingDigit (interval significand exponent)
  /-- No coarser grid has a number inside. -/
  first : ∀ (m : Nat) (stop : Int), m ≠ 0 → IsInside significand exponent (m * 10 ^ stop) →
    stop ≤ leadingDigit (interval significand exponent) →
    leadingDigit (interval significand exponent) < stop + 17 → stop ≤ power

/-- The search finds such a number. -/
theorem isShortest_shortest (formed : IsFormed significand exponent) (positive : 0 < significand) :
    IsShortest significand exponent (shortest significand exponent).1
      (shortest significand exponent).2 := by
  obtain ⟨j, j_pos, seventeen⟩ := exists_isInside_seventeen formed positive
  have value_lt := (leadingDigit_bounds formed positive).2
  have search : shortest significand exponent = searchGrid 17 (interval significand exponent)
      (leadingDigit (interval significand exponent)) := rfl
  have stops {m : Nat} {stop : Int} (nonzero : m ≠ 0)
      (inside : IsInside significand exponent (m * 10 ^ stop))
      (least : leadingDigit (interval significand exponent) - 17 < stop)
      (below : stop ≤ leadingDigit (interval significand exponent)) :=
    searchGrid_spec _ 17 least below (nearestOnGrid?_ne_none positive nonzero inside)
  rw [← search] at stops
  obtain ⟨here, fine, coarse⟩ := stops j_pos seventeen (by omega) (by omega)
  obtain ⟨nonzero, inside, few⟩ := of_nearestOnGrid? positive here
  refine ⟨Nat.pos_of_ne_zero nonzero, inside, ?_, by omega, coarse, ?_⟩
  · refine le_trans few (Nat.succ_le_of_lt ?_)
    have low := (floorOnGrid_bounds significand exponent (shortest significand exponent).2).1
    generalize (shortest significand exponent).2 = power at *
    generalize floorOnGrid significand exponent power = floor at *
    have unit : (0 : ℚ) < 10 ^ power := by positivity
    have below : (floor : ℚ) * 10 ^ power < (pow10 17 : Nat) * 10 ^ power :=
      calc (floor : ℚ) * 10 ^ power
          ≤ significand * 2 ^ exponent := low
        _ < 10 ^ (leadingDigit (interval significand exponent) + 1) := value_lt
        _ ≤ 10 ^ ((17 : Nat) + power) := zpow_le_zpow_right₀ (by norm_num) (by omega)
        _ = (pow10 17 : Nat) * 10 ^ power := by
          rw [zpow_add₀ (by norm_num), zpow_natCast, cast_pow10]
    exact_mod_cast lt_of_mul_lt_mul_right below (le_of_lt unit)
  · intro m stop nonzero inside below least
    exact (stops nonzero inside (by omega) below).2.1

end Search

end Stencil.Binary64
