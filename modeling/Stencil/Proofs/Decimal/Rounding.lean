import Stencil.Proofs.Decimal.Exact

/-!
# Rounded results of decimal arithmetic

A rounded result passes no short number: whichever number of no more digits than are kept the exact
result reaches, from below or from above, the rounded one reaches it too. So it lies within one unit
of the last place that is kept. Sums and quotients of finite numbers are rounded in this sense,
whatever digits and exponents the operands have, as long as the result leaves the range of exponents
neither upwards nor downwards.
-/

namespace Stencil.Decimal

open Number

/-- A value of no more significant digits than a result keeps, wherever its leading digit is. -/
def IsShort (x : ℚ) : Prop :=
  ∃ (coefficient : ℕ) (exponent : ℤ),
    digitCount coefficient ≤ precision ∧ |x| = coefficient * 10 ^ exponent

/-- A value that is reached, from below and from above, by the same short numbers as an exact one,
or by more. -/
def Rounds (x z : ℚ) : Prop := ∀ y, IsShort y → (y ≤ x → y ≤ z) ∧ (x ≤ y → z ≤ y)

section Short

variable {x : ℚ} {place : ℤ}

/-- The opposite of a short number is short. -/
theorem IsShort.neg (short : IsShort x) : IsShort (-x) := by
  obtain ⟨coefficient, exponent, few, value⟩ := short
  exact ⟨coefficient, exponent, few, (abs_neg x).trans value⟩

/-- A power of ten is short. -/
theorem isShort_zpow (exponent : ℤ) : IsShort (10 ^ exponent) := by
  have unit : (0 : ℚ) < 10 ^ exponent := by positivity
  exact ⟨1, exponent, by decide, by rw [abs_of_pos unit, Nat.cast_one, one_mul]⟩

/-- So many units of one place that they need at most one digit more than are kept, and then only
as a power of ten, are short. -/
theorem isShort_mul_zpow {m : ℤ} (few : m.natAbs ≤ pow10 precision) (place : ℤ) :
    IsShort (m * 10 ^ place) := by
  have unit : (0 : ℚ) < 10 ^ place := by positivity
  have value : |(m * 10 ^ place : ℚ)| = m.natAbs * 10 ^ place := by
    rw [abs_mul, abs_of_pos unit, Nat.cast_natAbs, Int.cast_abs]
  rcases few.lt_or_eq with less | most
  · exact ⟨m.natAbs, place, (digitCount_le_iff (by decide)).mpr less, value⟩
  · refine ⟨1, precision + place, by decide, ?_⟩
    rw [value, most, cast_pow10, Nat.cast_one, one_mul, zpow_add₀ (by norm_num), zpow_natCast]

/-- Zero is short. -/
theorem isShort_zero : IsShort 0 := by
  have nothing := isShort_mul_zpow (m := 0) (Nat.zero_le _) 0
  rwa [Int.cast_zero, zero_mul] at nothing

/-- As many units as a number of one digit more has at least are a power of ten. -/
theorem pow10_mul_zpow (place : ℤ) :
    ((pow10 (precision - 1) : ℤ) : ℚ) * 10 ^ place = 10 ^ (place + (precision - 1 : ℕ)) := by
  rw [Int.cast_natCast, cast_pow10, zpow_add₀ (by norm_num), zpow_natCast, mul_comm]

/-- A short number is a whole number of units of a place, unless it has so low a leading digit that
it may have digits behind that place. -/
theorem IsShort.multiple_or_small (short : IsShort x) (place : ℤ) :
    (∃ m : ℤ, x = m * 10 ^ place) ∨ |x| < 10 ^ (place + (precision - 1 : ℕ)) := by
  obtain ⟨coefficient, exponent, few, value⟩ := short
  by_cases le : place ≤ exponent
  · exact .inl (exists_multiple_of_le value le)
  · right
    have below : (coefficient : ℚ) < 10 ^ precision := by
      rw [← cast_pow10]
      exact_mod_cast (digitCount_le_iff (by decide)).mp few
    have unit : (0 : ℚ) < 10 ^ exponent := by positivity
    calc |x| = coefficient * 10 ^ exponent := value
      _ < 10 ^ precision * 10 ^ exponent := (mul_lt_mul_iff_left₀ unit).mpr below
      _ = 10 ^ ((precision : ℤ) + exponent) := by rw [zpow_add₀ (by norm_num), zpow_natCast]
      _ ≤ 10 ^ (place + (precision - 1 : ℕ)) := by
        refine zpow_le_zpow_right₀ (by norm_num) ?_
        simp only [precision]
        omega

/-- A number lies between two short ones that are one unit of its last kept place apart. -/
theorem exists_neighbours (x : ℚ) :
    ∃ m : ℤ, m.natAbs ≤ pow10 precision ∧ (m + 1).natAbs ≤ pow10 precision ∧
      m * 10 ^ (Int.log 10 |x| - (precision - 1 : ℕ)) ≤ x ∧
      x ≤ (m + 1 : ℤ) * 10 ^ (Int.log 10 |x| - (precision - 1 : ℕ)) := by
  generalize last : Int.log 10 |x| - ((precision - 1 : ℕ) : ℤ) = place
  have unit : (0 : ℚ) < 10 ^ place := by positivity
  have high : |x| < (10 : ℚ) ^ (Int.log 10 |x| + 1) := by
    exact_mod_cast Int.lt_zpow_succ_log_self (b := 10) (by decide) |x|
  have most : |x / 10 ^ place| < (pow10 precision : ℤ) := by
    rw [abs_div, abs_of_pos unit, div_lt_iff₀ unit, Int.cast_natCast, cast_pow10, ← zpow_natCast,
      ← zpow_add₀ (by norm_num)]
    refine high.trans_le (zpow_le_zpow_right₀ (by norm_num) ?_)
    simp only [precision] at last ⊢
    omega
  obtain ⟨above, below⟩ := abs_lt.mp most
  have floor_low : -(pow10 precision : ℤ) ≤ ⌊x / 10 ^ place⌋ :=
    Int.le_floor.mpr (by rw [Int.cast_neg]; exact above.le)
  have floor_high : ⌊x / 10 ^ place⌋ < (pow10 precision : ℤ) := Int.floor_lt.mpr below
  refine ⟨⌊x / 10 ^ place⌋, by omega, by omega, (le_div_iff₀ unit).mp (Int.floor_le _),
    (div_le_iff₀ unit).mp ?_⟩
  push_cast
  exact (Int.lt_floor_add_one _).le

end Short

namespace Rounds

variable {x y z : ℚ} {place : ℤ}

/-- An exact result is a rounded one. -/
theorem refl (x : ℚ) : Rounds x x := fun _ _ => ⟨id, id⟩

/-- A result that is rounded twice is rounded. -/
theorem trans (first : Rounds x y) (second : Rounds y z) : Rounds x z := fun w short =>
  ⟨fun le => (second w short).1 ((first w short).1 le),
    fun ge => (second w short).2 ((first w short).2 ge)⟩

/-- The opposite of a rounded result is rounded from the opposite value. -/
theorem neg (rounds : Rounds x z) : Rounds (-x) (-z) := by
  intro y short
  obtain ⟨up, down⟩ := rounds (-y) short.neg
  exact ⟨fun le => le_neg.mp (down (le_neg.mp le)), fun ge => neg_le.mp (up (neg_le.mp ge))⟩

/-- A value is rounded if it passes no whole number of units of the last place that is kept. -/
theorem of_multiples (place : ℤ) (large : 10 ^ (place + (precision - 1 : ℕ)) ≤ |x|)
    (kept : ∀ m : ℤ, (m * 10 ^ place ≤ x → m * 10 ^ place ≤ z) ∧
      (x ≤ m * 10 ^ place → z ≤ m * 10 ^ place)) : Rounds x z := by
  intro y short
  rcases short.multiple_or_small place with ⟨m, rfl⟩ | small
  · exact kept m
  -- a short number that is not a multiple lies closer to zero than a power of ten that is kept
  obtain ⟨above, below⟩ := abs_lt.mp small
  rcases le_abs.mp large with positive | negative
  · have reached := (kept (pow10 (precision - 1))).1 (pow10_mul_zpow place ▸ positive)
    rw [pow10_mul_zpow] at reached
    exact ⟨fun _ => below.le.trans reached,
      fun ge => absurd (positive.trans ge) below.not_ge⟩
  · have reached := (kept (-pow10 (precision - 1))).2 (by
      rw [Int.cast_neg, neg_mul, pow10_mul_zpow]
      exact le_neg.mp negative)
    rw [Int.cast_neg, neg_mul, pow10_mul_zpow] at reached
    exact ⟨fun le => absurd (le.trans (le_neg.mp negative)) above.not_ge,
      fun _ => reached.trans above.le⟩

/-- A rounded result is within one unit of the last place that is kept. -/
theorem near (rounds : Rounds x z) : |z - x| ≤ 10 ^ (-(precision - 1 : ℕ) : ℤ) * |x| := by
  rcases eq_or_ne x 0 with rfl | nonzero
  · have zero : z = 0 := le_antisymm ((rounds 0 isShort_zero).2 le_rfl)
      ((rounds 0 isShort_zero).1 le_rfl)
    rw [zero, sub_zero, abs_zero, mul_zero]
  obtain ⟨m, few, few', low, high⟩ := exists_neighbours x
  have reached := (rounds _ (isShort_mul_zpow few _)).1 low
  have passed := (rounds _ (isShort_mul_zpow few' _)).2 high
  push_cast at high passed
  have leading : (10 : ℚ) ^ Int.log 10 |x| ≤ |x| := by
    exact_mod_cast Int.zpow_log_le_self (b := 10) (by decide) (abs_pos.mpr nonzero)
  calc |z - x| ≤ 10 ^ (Int.log 10 |x| - (precision - 1 : ℕ)) :=
        abs_le.mpr ⟨by linarith, by linarith⟩
    _ = 10 ^ (-(precision - 1 : ℕ) : ℤ) * 10 ^ Int.log 10 |x| := by
        rw [← zpow_add₀ (by norm_num), neg_add_eq_sub]
    _ ≤ 10 ^ (-(precision - 1 : ℕ) : ℤ) * |x| := mul_le_mul_of_nonneg_left leading (by positivity)

/-- Rounding does not make a value smaller than a power of ten that it reaches. -/
theorem zpow_le_abs (rounds : Rounds x z) {exponent : ℤ} (large : 10 ^ exponent ≤ |x|) :
    10 ^ exponent ≤ |z| := by
  have short := isShort_zpow exponent
  rcases le_abs.mp large with positive | negative
  · exact ((rounds _ short).1 positive).trans (le_abs_self z)
  · have below := (rounds _ short.neg).2 (le_neg.mp negative)
    exact (le_neg.mp below).trans (neg_le_abs z)

end Rounds

section Settling

variable {x : ℚ} {negative : Bool} {coefficient coefficient' : Nat} {exponent exponent' : Int}
variable {d : Decimal} {result : Except Trap Decimal}

/-- Rounding a quotient passes no whole number. -/
theorem roundHalfEven_multiples (n : Nat) {divisor : Nat} (positive : 0 < divisor) (m : ℤ) :
    ((m : ℚ) ≤ n / divisor → m ≤ roundHalfEven n divisor) ∧
      ((n : ℚ) / divisor ≤ m → roundHalfEven n divisor ≤ m) := by
  obtain ⟨low, high⟩ := (isBetween_roundHalfEven n positive).bounds
  constructor
  · intro le
    have less : (m : ℚ) < roundHalfEven n divisor + 1 := by linarith
    exact Int.lt_add_one_iff.mp (by exact_mod_cast less)
  · intro ge
    have less : (roundHalfEven n divisor : ℚ) < m + 1 := by linarith
    exact Int.lt_add_one_iff.mp (by exact_mod_cast less)

/-- A coefficient of too many digits is rounded to those that are kept. -/
theorem rounds_dropDigits {excess : Nat} (count : digitCount coefficient = precision + excess)
    (exponent : Int) :
    Rounds (coefficient * 10 ^ exponent)
      (dropDigits coefficient excess * 10 ^ (exponent + excess)) := by
  have enough : ¬(digitCount coefficient : Int) < excess := by omega
  have positive : 0 < coefficient := by
    rw [Nat.pos_iff_ne_zero]
    rintro rfl
    have one : digitCount 0 = 1 := by decide
    simp only [one, precision] at count
    omega
  have unit : (0 : ℚ) < 10 ^ (exponent + excess) := by positivity
  have value : (coefficient * 10 ^ exponent : ℚ) =
      coefficient / pow10 excess * 10 ^ (exponent + excess) := by
    have some : (10 : ℚ) ^ excess ≠ 0 := by positivity
    rw [cast_pow10, zpow_add₀ (by norm_num), zpow_natCast]
    field_simp
  rw [dropDigits, if_neg enough, Int.toNat_natCast]
  refine .of_multiples (exponent + excess) ?_ fun m => ?_
  · have leading : (0 : ℚ) < coefficient * 10 ^ exponent := by positivity
    rw [abs_of_pos leading]
    calc (10 : ℚ) ^ (exponent + excess + (precision - 1 : ℕ))
        = 10 ^ ((digitCount coefficient : Int) - 1) * 10 ^ exponent := by
          rw [← zpow_add₀ (by norm_num)]
          congr 1
          simp only [precision] at count ⊢
          omega
      _ ≤ coefficient * 10 ^ exponent :=
          mul_le_mul_of_nonneg_right (digitCount_bounds positive).1 (by positivity)
  · obtain ⟨up, down⟩ := roundHalfEven_multiples coefficient (pow10_pos excess) m
    rw [value, mul_le_mul_iff_left₀ unit, mul_le_mul_iff_left₀ unit, mul_le_mul_iff_left₀ unit,
      mul_le_mul_iff_left₀ unit]
    exact ⟨fun le => by exact_mod_cast up le, fun ge => by exact_mod_cast down ge⟩

/-- A number of no more digits than are kept is short. -/
theorem isShort_toRat (negative : Bool) (few : digitCount coefficient ≤ precision)
    (exponent : Int) : IsShort (finite negative coefficient exponent).toRat :=
  ⟨coefficient, exponent, few, abs_toRat negative coefficient exponent⟩

/-- The value of a finite number from its magnitude. -/
theorem toRat_eq_ite (negative : Bool) (coefficient : Nat) (exponent : Int) :
    (finite negative coefficient exponent).toRat =
      if negative then -(coefficient * 10 ^ exponent : ℚ) else coefficient * 10 ^ exponent := by
  rw [toRat_finite, cast_signed, ite_mul, neg_mul]

/-- A magnitude and its sign are rounded as one. -/
theorem Rounds.signed {z : ℚ} (negative : Bool) (magnitude : Rounds x z) :
    Rounds (if negative then -x else x) (if negative then -z else z) := by
  cases negative with
  | false => exact magnitude
  | true => exact magnitude.neg

/-- A result of which the exact value is known, if it leaves the range of exponents neither upwards
nor downwards: it is not too large, and it is exact or not so small that digits are missing. -/
structure InRange (x : ℚ) (result : Except Trap Decimal) : Prop where
  /-- The result is not too large. -/
  notAbove : result ≠ .error .overflow
  /-- A result that is not exact has a leading digit for which all digits are kept. -/
  notBelow : ∀ d, result = .ok d → d.toRat = x ∨ 10 ^ minExponent ≤ |x|

/-- A result of a number that is not less than one is in range. -/
theorem InRange.of_one_le {d : Decimal} (found : result = .ok d) (large : 1 ≤ |x|) :
    InRange x result := by
  refine ⟨found ▸ nofun, fun _ _ => .inr ?_⟩
  calc (10 : ℚ) ^ minExponent ≤ 10 ^ (0 : ℤ) := zpow_le_zpow_right₀ (by norm_num) (by decide)
    _ = 1 := zpow_zero _
    _ ≤ |x| := large

/-- Settling a value fails only where it is too large. -/
theorem settle_ne_invalidOperation (negative : Bool) (coefficient : Nat) (exponent : Int) :
    settle negative coefficient exponent ≠ .error .invalidOperation := by
  unfold settle
  dsimp only
  repeat' split
  all_goals nofun

/-- A value that is not so small that digits are missing is rounded. -/
theorem rounds_settle (settled : settle negative coefficient exponent = .ok d)
    (large : 10 ^ minExponent ≤ |(finite negative coefficient exponent).toRat|) :
    Rounds (finite negative coefficient exponent).toRat d.toRat := by
  have positive : 0 < coefficient := by
    rw [Nat.pos_iff_ne_zero]
    rintro rfl
    have unit : (0 : ℚ) < 10 ^ minExponent := by positivity
    rw [toRat_zero, abs_zero] at large
    exact unit.not_ge large
  have low : minExponent ≤ leadingExponent coefficient exponent := by
    rw [abs_toRat] at large
    rw [leadingExponent_eq_log positive]
    exact (Int.zpow_le_iff_le_log (by decide) (by positivity)).mp (by exact_mod_cast large)
  rw [settle, if_neg positive.ne'] at settled
  dsimp only at settled
  split at settled
  · cases settled
  rw [if_neg low.not_gt] at settled
  split at settled
  · cases settled
    exact .refl _
  next more =>
  obtain ⟨excess, count⟩ := Nat.exists_eq_add_of_le (Nat.le_of_not_le more)
  have spare : digitCount coefficient - precision = excess := by omega
  have rounded := (rounds_dropDigits count exponent).signed negative
  rw [spare] at settled
  rw [toRat_eq_ite]
  split at settled
  · next carry =>
    -- the digits are all nines and are rounded up to a power of ten
    split at settled
    · cases settled
    cases settled
    have same : ((pow10 (precision - 1) : ℕ) : ℚ) * 10 ^ (exponent + excess + 1) =
        dropDigits coefficient excess * 10 ^ (exponent + excess) := by
      rw [carry, cast_pow10, cast_pow10, ← zpow_natCast, ← zpow_natCast,
        ← zpow_add₀ (by norm_num), ← zpow_add₀ (by norm_num)]
      congr 1
      simp only [precision]
      omega
    rw [toRat_eq_ite, same]
    exact rounded
  · cases settled
    rw [toRat_eq_ite]
    exact rounded

/-- A value that stands for an exact one is settled to a rounded result within the range. -/
theorem exists_rounds_settle (stands : Rounds x (finite negative coefficient exponent).toRat)
    (inRange : InRange x (settle negative coefficient exponent)) :
    ∃ d, settle negative coefficient exponent = .ok d ∧ Rounds x d.toRat := by
  cases settled : settle negative coefficient exponent with
  | error trap =>
    cases trap with
    | invalidOperation => exact absurd settled (settle_ne_invalidOperation _ _ _)
    | overflow => exact absurd settled inRange.notAbove
  | ok d =>
    refine ⟨d, rfl, ?_⟩
    rcases inRange.notBelow d settled with exact | large
    · rw [exact]
      exact .refl _
    · exact stands.trans (rounds_settle settled (stands.zpow_le_abs large))

end Settling

section Units

variable {unit rest : ℚ} {j m : ℤ}

/-- Which whole numbers of units a number reaches does not depend on how far it lies above the one
below it. -/
theorem multiples_between (above : 0 < rest) (below : rest < unit) (j m : ℤ) :
    (m * unit ≤ j * unit + rest ↔ m ≤ j) ∧ (j * unit + rest ≤ m * unit ↔ j < m) := by
  have positive : 0 < unit := above.trans below
  have most : (m : ℚ) ≤ j → m * unit ≤ j * unit := fun le =>
    mul_le_mul_of_nonneg_right le positive.le
  have least : ((j + 1 : ℤ) : ℚ) ≤ m → (j + 1 : ℤ) * unit ≤ m * unit := fun le =>
    mul_le_mul_of_nonneg_right le positive.le
  push_cast [add_mul, one_mul] at least
  constructor
  · refine ⟨fun le => ?_, fun le => (most (by exact_mod_cast le)).trans (by linarith)⟩
    by_contra more
    linarith [least (by exact_mod_cast Int.not_le.mp more)]
  · refine ⟨fun le => ?_, fun less => ?_⟩
    · by_contra more
      linarith [most (by exact_mod_cast Int.not_lt.mp more)]
    · linarith [least (by exact_mod_cast less)]

end Units

section Adding

variable {coefficient coefficient' : Nat} {exponent exponent' : Int} {x y z : ℚ}

/-- Summands of the same sign that lie far below another one give the same rounded sums. -/
theorem rounds_far (positive : 0 < coefficient) (value : |x| = coefficient * 10 ^ exponent)
    (far : |y| < 10 ^ farPlace coefficient exponent)
    (far' : |z| ≤ 10 ^ farPlace coefficient exponent)
    (same : 0 < y ∧ 0 < z ∨ y < 0 ∧ z < 0) : Rounds (x + y) (x + z) := by
  have some : 0 < digitCount coefficient := Nat.length_toDigits_pos
  obtain ⟨place, next⟩ : ∃ place, place = farPlace coefficient exponent + 1 := ⟨_, rfl⟩
  have within : place ≤ exponent ∧
      place + (precision - 1 : ℕ) ≤ exponent + digitCount coefficient - 2 := by
    rw [next, farPlace]
    by_cases more : precision < digitCount coefficient
    · rw [if_pos more]
      simp only [precision] at more ⊢
      omega
    · rw [if_neg more]
      simp only [precision] at more ⊢
      omega
  have unit : (0 : ℚ) < 10 ^ farPlace coefficient exponent := by positivity
  have ten : (10 : ℚ) ^ place = 10 ^ farPlace coefficient exponent * 10 := by
    rw [next, zpow_add_one₀ (by norm_num)]
  obtain ⟨n, multiple⟩ := exists_multiple_of_le value within.1
  refine .of_multiples place ?_ fun m => ?_
  · have small : |y| ≤ 10 ^ (exponent + digitCount coefficient - 2) := by
      refine far.le.trans (zpow_le_zpow_right₀ (by norm_num) ?_)
      simp only [precision] at within
      omega
    exact (zpow_le_zpow_right₀ (by norm_num) within.2).trans
      (leading_le_abs_add positive value small)
  · rw [multiple]
    rcases same with ⟨above, above'⟩ | ⟨below, below'⟩
    · rw [abs_of_pos above] at far
      rw [abs_of_pos above'] at far'
      have first := multiples_between above (show y < 10 ^ place by linarith) n m
      have second := multiples_between above' (show z < 10 ^ place by linarith) n m
      rw [first.1, first.2, second.1, second.2]
      exact ⟨id, id⟩
    · rw [abs_of_neg below] at far
      rw [abs_of_neg below'] at far'
      -- a summand below zero is one above the next lower whole number of units
      have lowered (w : ℚ) : n * 10 ^ place + w = (n - 1 : ℤ) * 10 ^ place + (10 ^ place + w) := by
        push_cast
        ring
      have first := multiples_between (show 0 < 10 ^ place + y by linarith)
        (show 10 ^ place + y < 10 ^ place by linarith) (n - 1) m
      have second := multiples_between (show 0 < 10 ^ place + z by linarith)
        (show 10 ^ place + z < 10 ^ place by linarith) (n - 1) m
      rw [lowered, lowered, first.1, first.2, second.1, second.2]
      exact ⟨id, id⟩

/-- A summand of one sign that is condensed gives the same rounded sums. -/
theorem rounds_condense (value : |x| = coefficient * 10 ^ exponent) (negative' : Bool) :
    Rounds (x + (finite negative' coefficient' exponent').toRat)
      (x + (finite negative' (condense coefficient exponent coefficient' exponent').1
        (condense coefficient exponent coefficient' exponent').2).toRat) := by
  rw [condense_eq]
  split
  · next far =>
    obtain ⟨nonzero, far⟩ := far
    rcases Nat.eq_zero_or_pos coefficient' with rfl | positive'
    · rw [if_pos rfl, toRat_zero, toRat_zero]
      exact .refl _
    rw [if_neg positive'.ne']
    have magnitude : (0 : ℚ) < coefficient' * 10 ^ exponent' := by positivity
    have unit : (0 : ℚ) < 10 ^ farPlace coefficient exponent := by positivity
    refine rounds_far (Nat.pos_of_ne_zero nonzero) value ?_ ?_ ?_
    · rw [leadingExponent_eq_log positive'] at far
      have below := (Int.lt_zpow_iff_log_lt (b := 10) (by decide) magnitude).mpr far
      rw [abs_toRat]
      exact_mod_cast below
    · rw [abs_toRat, Nat.cast_one, one_mul]
    · rw [toRat_eq_ite, toRat_eq_ite, Nat.cast_one, one_mul]
      cases negative' with
      | false => exact .inl ⟨magnitude, unit⟩
      | true => exact .inr ⟨neg_neg_of_pos magnitude, neg_neg_of_pos unit⟩
  · exact .refl _

/-- A sum of finite numbers that does not leave the range is a rounded one. -/
theorem exists_rounds_add {a b : Decimal} (first : a.isFinite) (second : b.isFinite)
    (inRange : InRange (a.toRat + b.toRat) (a.add b)) :
    ∃ d, a.add b = .ok d ∧ d.isFinite ∧ Rounds (a.toRat + b.toRat) d.toRat := by
  have rounded : ∃ d, a.add b = .ok d ∧ Rounds (a.toRat + b.toRat) d.toRat := by
    have aligned {negative negative' : Bool} {coefficient coefficient' : Nat}
        {exponent exponent' : Int} (le : exponent' ≤ exponent)
        (inRange : InRange ((finite negative coefficient exponent).toRat +
            (finite negative' coefficient' exponent').toRat)
          (addAligned negative coefficient exponent negative' coefficient' exponent')) :
        ∃ d, addAligned negative coefficient exponent negative' coefficient' exponent' = .ok d ∧
          Rounds ((finite negative coefficient exponent).toRat +
            (finite negative' coefficient' exponent').toRat) d.toRat := by
      obtain ⟨sign, total, place, settled, value⟩ :=
        exists_addAligned_eq_settle negative negative' coefficient coefficient' le
      rw [settled] at inRange ⊢
      refine exists_rounds_settle ?_ inRange
      rw [value]
      exact rounds_condense (abs_toRat negative coefficient exponent) negative'
    obtain ⟨negative, coefficient, exponent, rfl⟩ := exists_of_isFinite first
    obtain ⟨negative', coefficient', exponent', rfl⟩ := exists_of_isFinite second
    rw [add] at inRange ⊢
    split at inRange
    · next le =>
      rw [if_pos le]
      exact aligned le inRange
    · next above =>
      rw [if_neg above]
      rw [add_comm] at inRange ⊢
      exact aligned (by omega) inRange
  obtain ⟨d, sum, value⟩ := rounded
  exact ⟨d, sum, isFinite_add first second sum, value⟩

end Adding

section Dividing

variable {coefficient : Nat} {exponent ideal : Int} {divisor : Nat}

/-- Dropping zeros keeps the value. -/
theorem dropZeros_value (fuel coefficient : Nat) (exponent ideal : Int) :
    ((dropZeros fuel coefficient exponent ideal).1 : ℚ) *
        10 ^ (dropZeros fuel coefficient exponent ideal).2 = coefficient * 10 ^ exponent := by
  induction fuel generalizing coefficient exponent with
  | zero => rfl
  | succ fuel ih =>
    rw [dropZeros]
    split
    · next zero =>
      have whole : coefficient = coefficient / 10 * 10 := by omega
      rw [ih, zpow_add_one₀ (by norm_num)]
      nth_rewrite 2 [whole]
      push_cast
      ring
    · rfl

/-- How many places a coefficient is moved up so that its quotient has enough digits. -/
def quotientShift (coefficient divisor : Nat) : Int :=
  (digitCount divisor : Int) - digitCount coefficient + precision + 1

/-- The coefficient moved up, over the divisor, is the quotient in units of its last place. -/
theorem quotient_value (positive : 0 < divisor) (coefficient : Nat) (exponent shift : Int) :
    (coefficient * 10 ^ exponent / divisor : ℚ) =
      ((coefficient * pow10 shift.toNat : ℕ) : ℚ) / (divisor * pow10 (-shift).toNat : ℕ) *
        10 ^ (exponent - shift) := by
  have some : (divisor : ℚ) ≠ 0 := by positivity
  have down : (10 : ℚ) ^ (-shift).toNat ≠ 0 := by positivity
  have up : (10 : ℚ) ^ shift ≠ 0 := by positivity
  rw [Nat.cast_mul, Nat.cast_mul, cast_pow10, cast_pow10, pow_toNat (by norm_num) shift,
    zpow_sub₀ (by norm_num)]
  field_simp

/-- A quotient has more digits than are kept. -/
theorem quotient_large (positive : 0 < coefficient) (positive' : 0 < divisor) (exponent : Int) :
    (10 : ℚ) ^ (exponent - quotientShift coefficient divisor + precision) ≤
      coefficient * 10 ^ exponent / divisor := by
  have low := (digitCount_bounds positive).1
  have high := (digitCount_bounds positive').2
  have some : (0 : ℚ) < divisor := by positivity
  have unit : (0 : ℚ) < 10 ^ exponent := by positivity
  have high : (divisor : ℚ) ≤ 10 ^ (digitCount divisor : Int) := by
    push_cast at high
    linarith
  rw [le_div_iff₀ some]
  calc (10 : ℚ) ^ (exponent - quotientShift coefficient divisor + precision) * divisor
      ≤ 10 ^ (exponent - quotientShift coefficient divisor + precision) *
          10 ^ (digitCount divisor : Int) := mul_le_mul_of_nonneg_left high (by positivity)
    _ = 10 ^ ((digitCount coefficient : Int) - 1) * 10 ^ exponent := by
        rw [← zpow_add₀ (by norm_num), ← zpow_add₀ (by norm_num), quotientShift]
        congr 1
        omega
    _ ≤ coefficient * 10 ^ exponent := mul_le_mul_of_nonneg_right low unit.le

/-- A quotient that is not whole stands for its value rounded down, and for one more, where that
value ends with a zero or a five. -/
theorem rounds_sticky (positive : 0 < coefficient) (positive' : 0 < divisor) {n d sticky : Nat}
    (value : (coefficient * 10 ^ exponent / divisor : ℚ) =
      (n : ℚ) / d * 10 ^ (exponent - quotientShift coefficient divisor)) (some : 0 < d)
    (inexact : n % d ≠ 0) (low : n / d ≤ sticky) (high : sticky ≤ n / d + 1) :
    Rounds (coefficient * 10 ^ exponent / divisor)
      (sticky * 10 ^ (exponent - quotientShift coefficient divisor)) := by
  have large := quotient_large positive positive' exponent
  generalize exponent - quotientShift coefficient divisor = place at value large ⊢
  have unit : (0 : ℚ) < 10 ^ place := by positivity
  have ten : (10 : ℚ) ^ (place + 1) = 10 * 10 ^ place := by
    rw [zpow_add_one₀ (by norm_num), mul_comm]
  have some' : (0 : ℚ) < d := by positivity
  have above : (0 : ℚ) < (n % d : ℕ) / d * 10 ^ place := by
    have rest : 0 < n % d := Nat.pos_of_ne_zero inexact
    positivity
  have below : ((n % d : ℕ) : ℚ) / d * 10 ^ place < 10 ^ place := by
    rw [mul_lt_iff_lt_one_left unit, div_lt_one some']
    exact_mod_cast Nat.mod_lt n some
  refine .of_multiples (place + 1) ?_ fun m => ?_
  · have nonneg : (0 : ℚ) ≤ coefficient * 10 ^ exponent / divisor := by positivity
    rw [abs_of_nonneg nonneg]
    refine (zpow_le_zpow_right₀ (by norm_num) ?_).trans large
    simp only [precision]
    omega
  · have between := multiples_between above below ((n / d : ℕ) : ℤ) (m * 10)
    rw [Int.cast_mul, Int.cast_ofNat, Int.cast_natCast, mul_assoc] at between
    rw [value, cast_div_add_mod n some, add_mul, ten, between.1, between.2]
    constructor
    · intro le
      have reached : m * 10 ≤ sticky := by omega
      rw [← mul_assoc]
      exact mul_le_mul_of_nonneg_right (by exact_mod_cast reached) unit.le
    · intro less
      have passed : (sticky : ℤ) ≤ m * 10 := by omega
      rw [← mul_assoc]
      exact mul_le_mul_of_nonneg_right (by exact_mod_cast passed) unit.le

/-- A quotient is settled from a magnitude that stands for the exact one. -/
theorem exists_divNat_eq_settle (negative : Bool) (positive : 0 < coefficient)
    (positive' : 0 < divisor) (exponent : Int) :
    ∃ quotient place,
      divNat (finite negative coefficient exponent) divisor = settle negative quotient place ∧
        Rounds (coefficient * 10 ^ exponent / divisor) (quotient * 10 ^ place) := by
  have value := quotient_value positive' coefficient exponent (quotientShift coefficient divisor)
  have some : 0 < divisor * pow10 (-quotientShift coefficient divisor).toNat :=
    Nat.mul_pos positive' (pow10_pos _)
  rw [divNat, if_neg positive.ne']
  dsimp only
  rw [← quotientShift]
  generalize coefficient * pow10 (quotientShift coefficient divisor).toNat = n at value ⊢
  generalize divisor * pow10 (-quotientShift coefficient divisor).toNat = d at value some ⊢
  split
  · next whole =>
    refine ⟨_, _, rfl, ?_⟩
    rw [dropZeros_value, value, cast_div_add_mod n some, whole, Nat.cast_zero, zero_div, add_zero]
    exact .refl _
  · next inexact =>
    refine ⟨_, _, rfl, rounds_sticky positive positive' value some inexact ?_ ?_⟩
    · split <;> omega
    · split <;> omega

/-- A quotient of a finite number that does not leave the range is a rounded one. -/
theorem exists_rounds_divNat {a : Decimal} (finite : a.isFinite) (positive' : 0 < divisor)
    (inRange : InRange (a.toRat / divisor) (a.divNat divisor)) :
    ∃ d, a.divNat divisor = .ok d ∧ d.isFinite ∧ Rounds (a.toRat / divisor) d.toRat := by
  have rounded : ∃ d, a.divNat divisor = .ok d ∧ Rounds (a.toRat / divisor) d.toRat := by
    obtain ⟨negative, coefficient, exponent, rfl⟩ := exists_of_isFinite finite
    rcases Nat.eq_zero_or_pos coefficient with rfl | positive
    · rw [toRat_zero, zero_div, divNat, if_pos rfl] at *
      exact exists_rounds_settle (toRat_zero negative exponent ▸ .refl _) inRange
    · obtain ⟨quotient, place, settled, stands⟩ :=
        exists_divNat_eq_settle negative positive positive' exponent
      rw [settled] at inRange ⊢
      refine exists_rounds_settle ?_ inRange
      rw [toRat_eq_ite, toRat_eq_ite, ite_div, neg_div]
      exact stands.signed negative
  obtain ⟨d, quotient, value⟩ := rounded
  exact ⟨d, quotient, isFinite_divNat finite quotient, value⟩

end Dividing

end Stencil.Decimal
