import Stencil.Proofs.Decimal.Rounding
import Stencil.Proofs.Function.Extremes

/-!
# The mean of arguments

A mean is calculated as a rounded sum, one item after the other, and its rounded quotient. The
quotient passes no item that the sum of as many copies does not pass, so the mean lies between the
least and the greatest item whenever the sum is exact. The sum itself may be rounded, and then the
mean of two equal items may lie above both. By how much it leaves the interval is bounded by the
number of roundings.
-/

namespace Stencil.Function

open Decimal (InRange IsShort Rounds precision)

section Drift

/-- One unit of the last place that is kept, in proportion to a result with the lowest leading
digit. -/
def roundingUnit : ℚ := 10 ^ (-(precision - 1 : ℕ) : ℤ)

/-- How far some roundings, one after the other, can move a result in proportion to it. -/
def drift (roundings : ℕ) : ℚ := (1 + roundingUnit) ^ roundings - 1

/-- The unit of rounding is positive. -/
theorem roundingUnit_pos : 0 < roundingUnit := by
  unfold roundingUnit
  positivity

/-- Roundings may move a result or leave it. -/
theorem drift_nonneg (roundings : ℕ) : 0 ≤ drift roundings :=
  sub_nonneg.mpr (one_le_pow₀ (le_add_of_nonneg_right roundingUnit_pos.le))

/-- One more rounding moves a result that may have been moved before. -/
theorem drift_succ (roundings : ℕ) :
    drift (roundings + 1) = drift roundings + roundingUnit * (1 + drift roundings) := by
  unfold drift
  ring

/-- A rounded result of a moved value is moved by one more rounding. -/
theorem abs_sub_le_drift {x y z most : ℚ} {roundings : ℕ} (rounds : Rounds y z)
    (moved : |y - x| ≤ drift roundings * most) (within : |x| ≤ most) :
    |z - x| ≤ drift (roundings + 1) * most := by
  have reach : |y| ≤ (1 + drift roundings) * most := by
    have parts := abs_add_le (y - x) x
    rw [sub_add_cancel] at parts
    linarith
  have step : |z - y| ≤ roundingUnit * ((1 + drift roundings) * most) :=
    rounds.near.trans (mul_le_mul_of_nonneg_left reach roundingUnit_pos.le)
  calc |z - x| ≤ |z - y| + |y - x| := abs_sub_le z y x
    _ ≤ roundingUnit * ((1 + drift roundings) * most) + drift roundings * most :=
        add_le_add step moved
    _ = drift (roundings + 1) * most := by
        rw [drift_succ]
        ring

end Drift

section Sums

variable {start : Decimal} {ds : List Decimal}

/-- No addition of numbers, one after the other, leaves the range of exponents. -/
def SumsInRange : Decimal → List Decimal → Prop
  | _, [] => True
  | start, d :: ds => InRange (start.toRat + d.toRat) (start.add d) ∧
      ∀ next, start.add d = .ok next → SumsInRange next ds

/-- The magnitude of a sum is at most the sum of the magnitudes. -/
theorem abs_sum_map_le (f : Decimal → ℚ) (ds : List Decimal) :
    |(ds.map f).sum| ≤ (ds.map fun d => |f d|).sum := by
  have all := Multiset.abs_sum_le_sum_abs (s := (ds.map f : Multiset ℚ))
  rwa [Multiset.sum_coe, Multiset.map_coe, Multiset.sum_coe, List.map_map] at all

/-- A sum is at most as many times a bound as there are items. -/
theorem sum_map_le {f : Decimal → ℚ} {most : ℚ} (bound : ∀ d ∈ ds, f d ≤ most) :
    (ds.map f).sum ≤ ds.length * most := by
  have all := List.sum_le_card_nsmul (ds.map f) most (List.forall_mem_map.mpr bound)
  rwa [List.length_map, nsmul_eq_mul] at all

/-- A sum is at least as many times a bound as there are items. -/
theorem le_sum_map {f : Decimal → ℚ} {least : ℚ} (bound : ∀ d ∈ ds, least ≤ f d) :
    ds.length * least ≤ (ds.map f).sum := by
  have all := List.card_nsmul_le_sum (ds.map f) least (List.forall_mem_map.mpr bound)
  rwa [List.length_map, nsmul_eq_mul] at all

/-- A sum that stays in range differs from the exact one by at most one rounding for each item. -/
theorem exists_total_near {exact : ℚ} {roundings : ℕ} {most : ℚ} (first : start.isFinite)
    (finite : ∀ d ∈ ds, d.isFinite) (inRange : SumsInRange start ds)
    (moved : |start.toRat - exact| ≤ drift roundings * most)
    (within : |exact| ≤ most) :
    ∃ sum, total (.decimal start) (ds.map .decimal) = .ok (.decimal sum) ∧ sum.isFinite ∧
      |sum.toRat - (exact + (ds.map Decimal.toRat).sum)| ≤
        drift (roundings + ds.length) * (most + (ds.map fun d => |d.toRat|).sum) := by
  -- by induction on the items to come; `exact` is the exact sum of those before, `most` the sum of
  -- their magnitudes
  induction ds generalizing start exact roundings most with
  | nil =>
    refine ⟨start, total_nil _, first, ?_⟩
    simpa using moved
  | cons d ds ih =>
    obtain ⟨here, later⟩ := inRange
    obtain ⟨next, added, isFinite, rounds⟩ :=
      Decimal.exists_rounds_add first (finite d List.mem_cons_self) here
    have moved' : |next.toRat - (exact + d.toRat)| ≤
        drift (roundings + 1) * (most + |d.toRat|) := by
      refine abs_sub_le_drift rounds ?_ ((abs_add_le _ _).trans (by linarith))
      rw [add_sub_add_right_eq_sub]
      refine moved.trans (mul_le_mul_of_nonneg_left ?_ (drift_nonneg _))
      exact le_add_of_nonneg_right (abs_nonneg _)
    obtain ⟨sum, folded, isFinite', near⟩ := ih isFinite
      (fun e among => finite e (List.mem_cons_of_mem d among)) (later next added) moved'
      ((abs_add_le _ _).trans (by linarith))
    refine ⟨sum, ?_, isFinite', ?_⟩
    · rw [total, List.map_cons, List.foldlM_cons, addValues, added]
      exact folded
    · rw [List.map_cons, List.sum_cons, List.map_cons, List.sum_cons, List.length_cons,
        ← add_assoc exact, ← add_assoc most, ← Nat.add_assoc, Nat.add_right_comm]
      exact near

end Sums

section Means

variable {arguments : List Value} {ds : List Decimal}

/-- Neither the sum of some numbers, one after the other from zero, nor its quotient by their number
leaves the range of exponents. -/
structure MeanInRange (ds : List Decimal) : Prop where
  /-- No addition leaves the range. -/
  sums : SumsInRange .zero ds
  /-- The division of the sum does not leave the range. -/
  quotient : ∀ sum, total (.decimal .zero) (ds.map .decimal) = .ok (.decimal sum) →
    InRange (sum.toRat / ds.length) (sum.divNat ds.length)

/-- How a mean of some numbers lies to a least and a greatest one. -/
structure LiesBetween (ds : List Decimal) (least greatest sum mean : Decimal) : Prop where
  /-- The mean is not below the least number unless the sum is below that of as many copies of
  it. -/
  above : ds.length * least.toRat ≤ sum.toRat → least.toRat ≤ mean.toRat
  /-- The mean is not above the greatest number unless the sum is above that of as many copies of
  it. -/
  below : sum.toRat ≤ ds.length * greatest.toRat → mean.toRat ≤ greatest.toRat
  /-- If the sum is exact, the mean lies between the extremes. -/
  between : sum.toRat = (ds.map Decimal.toRat).sum →
    least.toRat ≤ mean.toRat ∧ mean.toRat ≤ greatest.toRat
  /-- If the sum is exact, the mean of copies of a value is that value. -/
  copies : sum.toRat = (ds.map Decimal.toRat).sum → ∀ x, (∀ d ∈ ds, d.toRat = x) → mean.toRat = x
  /-- The mean leaves the interval by at most one rounding for each item and one for the quotient,
  in proportion to the largest magnitude. -/
  near : ∀ most, (∀ d ∈ ds, |d.toRat| ≤ most) →
    least.toRat - drift (ds.length + 1) * most ≤ mean.toRat ∧
      mean.toRat ≤ greatest.toRat + drift (ds.length + 1) * most

/-- A mean of decimal numbers is the quotient of their sum. -/
theorem invoke_average {sum mean : Decimal} (filled : ds ≠ []) (given : arguments ≠ [])
    (cast : castItems (flatten arguments) (.one .number) = .ok (ds.map .decimal))
    (added : total (.decimal .zero) (ds.map .decimal) = .ok (.decimal sum))
    (divided : sum.divNat ds.length = .ok mean) :
    average.invoke (some (.one .number)) arguments = .ok (.decimal mean) := by
  have enough : ¬(arguments.length : Int) < average.minArguments := by
    have length := List.length_pos_iff.mpr given
    rw [show average.minArguments = 1 from rfl]
    omega
  have items : (ds.map Value.decimal).isEmpty = false := by
    rw [List.isEmpty_eq_false_iff]
    exact mt List.map_eq_nil_iff.mp filled
  have applied : average.apply (some (.one .number)) arguments = .ok (.decimal mean) := by
    rw [average]
    dsimp only
    rw [applyAverage, cast, Outcome.ok_bind, items, if_neg Bool.false_ne_true, added]
    dsimp only [Outcome.ok_bind]
    rw [List.length_map, divided]
    rfl
  rw [Function.invoke, show average.refused? (some (.one .number)) = none from rfl]
  dsimp only
  rw [if_neg enough, applied]

/-- Some item of decimal numbers that is not passed by any of them, and its value. -/
theorem exists_decimal_extreme {le : ℚ → ℚ → Prop} [DecidableRel le] {f : Function}
    (filled : ds ≠ [])
    (cast : castItems (flatten arguments) (.one .number) = .ok (ds.map .decimal))
    (chooses : Chooses le f (some (.one .number)) arguments (ds.map .decimal)) :
    ∃ d ∈ ds, f.invoke (some (.one .number)) arguments = .ok (.decimal d) ∧
      ∀ e ∈ ds, le d.toRat e.toRat := by
  have found : extreme le (ds.map .decimal) ≠ .null := by
    rw [Ne, chooses.null_iff, ← castItems_eq_nil_iff cast]
    exact mt List.map_eq_nil_iff.mp filled
  obtain ⟨d, among, same⟩ := List.mem_map.mp (extreme_mem found)
  refine ⟨d, among, same ▸ chooses.first, fun e among' => ?_⟩
  have reached := chooses.reaches (.decimal e) (List.mem_map_of_mem among')
  rw [← same] at reached
  exact reached

/-- How a rounded quotient of a sum near the exact one lies to a least and a greatest number. -/
theorem liesBetween {least greatest sum mean : Decimal} (filled : ds ≠ [])
    (first : least ∈ ds) (last : greatest ∈ ds)
    (short : ∀ d ∈ ds, IsShort d.toRat)
    (low : ∀ d ∈ ds, least.toRat ≤ d.toRat) (high : ∀ d ∈ ds, d.toRat ≤ greatest.toRat)
    (near : |sum.toRat - (ds.map Decimal.toRat).sum| ≤
      drift ds.length * (ds.map fun d => |d.toRat|).sum)
    (rounds : Rounds (sum.toRat / ds.length) mean.toRat) :
    LiesBetween ds least greatest sum mean := by
  have some : (0 : ℚ) < ds.length := by exact_mod_cast List.length_pos_iff.mpr filled
  have lower := le_sum_map low
  have upper := sum_map_le high
  have above : ds.length * least.toRat ≤ sum.toRat → least.toRat ≤ mean.toRat := fun le =>
    (rounds _ (short least first)).1 ((le_div_iff₀' some).mpr le)
  have below : sum.toRat ≤ ds.length * greatest.toRat → mean.toRat ≤ greatest.toRat := fun le =>
    (rounds _ (short greatest last)).2 ((div_le_iff₀' some).mpr le)
  have between : sum.toRat = (ds.map Decimal.toRat).sum →
      least.toRat ≤ mean.toRat ∧ mean.toRat ≤ greatest.toRat := fun exact =>
    ⟨above (exact ▸ lower), below (exact ▸ upper)⟩
  refine ⟨above, below, between, fun exact x copies => ?_, fun most within => ?_⟩
  · obtain ⟨up, down⟩ := between exact
    rw [copies least first] at up
    rw [copies greatest last] at down
    exact le_antisymm down up
  · have sizes := sum_map_le within
    have reach := (abs_sum_map_le Decimal.toRat ds).trans sizes
    have scaled (x y : ℚ) : |x / ds.length - y / ds.length| = |x - y| / ds.length := by
      rw [← sub_div, abs_div, abs_of_pos some]
    have moved : |sum.toRat / ds.length - (ds.map Decimal.toRat).sum / ds.length| ≤
        drift ds.length * most := by
      rw [scaled, div_le_iff₀' some]
      refine near.trans ((mul_le_mul_of_nonneg_left sizes (drift_nonneg _)).trans_eq ?_)
      ring
    have within' : |(ds.map Decimal.toRat).sum / ds.length| ≤ most := by
      rw [abs_div, abs_of_pos some, div_le_iff₀' some]
      exact reach
    obtain ⟨up, down⟩ := abs_le.mp (abs_sub_le_drift rounds moved within')
    have lower := (le_div_iff₀' some).mpr lower
    have upper := (div_le_iff₀' some).mpr upper
    constructor
    · linarith
    · linarith

/-- A mean of decimal numbers of few enough digits, of which no sum and not the quotient leaves the
range of exponents, is calculated, and so are the extremes. It lies between them unless the sum, as
it is rounded item by item, passes as many copies of one of them; it does so if the sum is exact,
and then a mean of copies of one value is that value. In any case it leaves the interval by no more
than the roundings can move it. -/
theorem exists_average {arguments : List Value} {ds : List Decimal} (filled : ds ≠ [])
    (cast : castItems (flatten arguments) (.one .number) = .ok (ds.map .decimal))
    (finite : ∀ d ∈ ds, d.isFinite) (short : ∀ d ∈ ds, IsShort d.toRat)
    (inRange : MeanInRange ds) :
    ∃ least greatest sum mean : Decimal,
      min.invoke (some (.one .number)) arguments = .ok (.decimal least) ∧
      max.invoke (some (.one .number)) arguments = .ok (.decimal greatest) ∧
      total (.decimal .zero) (ds.map .decimal) = .ok (.decimal sum) ∧
      average.invoke (some (.one .number)) arguments = .ok (.decimal mean) ∧
      LiesBetween ds least greatest sum mean := by
  have given : arguments ≠ [] := by
    rintro rfl
    exact filled (List.map_eq_nil_iff.mp ((castItems_eq_nil_iff cast).mpr rfl))
  have finite' : ∀ d, Value.decimal d ∈ ds.map .decimal → d.isFinite := by
    intro d among
    obtain ⟨e, among, same⟩ := List.mem_map.mp among
    cases same
    exact finite d among
  obtain ⟨least, first, leastInvoked, low⟩ := exists_decimal_extreme filled cast
    (chooses_min (.inr rfl) given rfl cast finite')
  obtain ⟨greatest, last, greatestInvoked, high⟩ := exists_decimal_extreme filled cast
    (chooses_max (.inr rfl) given rfl cast finite')
  have zero : Decimal.zero.toRat = 0 := Decimal.toRat_zero false 0
  have start : |Decimal.zero.toRat - 0| ≤ drift 0 * 0 := by simp [zero]
  obtain ⟨sum, added, isFinite, near⟩ :=
    exists_total_near rfl finite inRange.sums start (abs_zero.le)
  rw [zero_add, zero_add, zero_add] at near
  obtain ⟨mean, divided, -, rounds⟩ := Decimal.exists_rounds_divNat isFinite
    (List.length_pos_iff.mpr filled) (inRange.quotient sum added)
  exact ⟨least, greatest, sum, mean, leastInvoked, greatestInvoked, added,
    invoke_average filled given cast added divided,
    liesBetween filled first last short low high near rounds⟩

/-- Of a number, a text and another number the mean is four thirds, rounded down. -/
theorem exists_average_thirds :
    let one : Decimal := .finite false 1 0
    let again : Decimal := .finite false 10 (-1)
    let two : Decimal := .finite false 2 0
    let arguments : List Value := [.decimal one, .list [.text "1.0", .null, .decimal two]]
    castItems (flatten arguments) (.one .number) = .ok ([one, again, two].map .decimal) ∧
      (∀ d ∈ [one, again, two], d.isFinite) ∧ (∀ d ∈ [one, again, two], IsShort d.toRat) ∧
      MeanInRange [one, again, two] ∧
      ∃ mean, average.invoke (some (.one .number)) arguments = .ok (.decimal mean) ∧
        mean = .finite false 1333333333333333333333333333 (-27) ∧
        one.toRat ≤ mean.toRat ∧ mean.toRat ≤ two.toRat := by
  intro one again two arguments
  have cast : castItems (flatten arguments) (.one .number) =
      .ok ([one, again, two].map .decimal) := by rfl
  have finite : ∀ d ∈ [one, again, two], d.isFinite := by decide
  have short : ∀ d ∈ [one, again, two], IsShort d.toRat := by
    simp only [List.forall_mem_cons, List.not_mem_nil, false_implies, implies_true, and_true]
    exact ⟨Decimal.isShort_toRat false (by decide) 0, Decimal.isShort_toRat false (by decide) (-1),
      Decimal.isShort_toRat false (by decide) 0⟩
  -- the partial sums and their values
  let twice : Decimal := .finite false 20 (-1)
  let all : Decimal := .finite false 40 (-1)
  let third : Decimal := .finite false 1333333333333333333333333333 (-27)
  have first : Decimal.zero.add one = .ok one := by rfl
  have second : one.add again = .ok twice := by rfl
  have last : twice.add two = .ok all := by rfl
  have divided : all.divNat 3 = .ok third := by rfl
  have added : total (.decimal .zero) ([one, again, two].map .decimal) = .ok (.decimal all) := by
    rfl
  have zero : Decimal.zero.toRat = 0 := Decimal.toRat_zero false 0
  obtain ⟨one_eq, again_eq, two_eq, twice_eq, all_eq⟩ : one.toRat = 1 ∧ again.toRat = 1 ∧
      two.toRat = 2 ∧ twice.toRat = 2 ∧ all.toRat = 4 := by
    simp only [one, again, two, twice, all, Decimal.toRat_finite, Decimal.signed_false]
    norm_num
  have inRange : MeanInRange [one, again, two] := by
    refine ⟨⟨.of_one_le first (by norm_num [zero, one_eq]), fun _ found => ?_⟩, fun _ found => ?_⟩
    · cases first.symm.trans found
      refine ⟨.of_one_le second (by norm_num [one_eq, again_eq]), fun _ found => ?_⟩
      cases second.symm.trans found
      exact ⟨.of_one_le last (by norm_num [twice_eq, two_eq]), fun _ _ => trivial⟩
    · cases added.symm.trans found
      exact .of_one_le divided (by norm_num [all_eq])
  obtain ⟨least, greatest, sum, mean, leastInvoked, greatestInvoked, folded, invoked, lies⟩ :=
    exists_average (List.cons_ne_nil _ _) cast finite short inRange
  cases added.symm.trans folded
  have least_eq : min.invoke (some (.one .number)) arguments = .ok (.decimal one) := by rfl
  have greatest_eq : max.invoke (some (.one .number)) arguments = .ok (.decimal two) := by rfl
  have mean_eq : average.invoke (some (.one .number)) arguments = .ok (.decimal third) :=
    invoke_average (List.cons_ne_nil _ _) (List.cons_ne_nil _ _) cast added divided
  cases least_eq.symm.trans leastInvoked
  cases greatest_eq.symm.trans greatestInvoked
  cases mean_eq.symm.trans invoked
  obtain ⟨above, below⟩ := lies.between (by norm_num [one_eq, again_eq, two_eq, all_eq])
  exact ⟨cast, finite, short, inRange, third, mean_eq, rfl, above, below⟩

/-- The sum of two equal numbers of nines has a digit too many and is rounded up, and so the mean of
the two lies above both. -/
theorem average_above_greatest :
    let nines : Decimal := .finite false 9999999999999999999999999999 (-27)
    let ten : Decimal := .finite false 1000000000000000000000000000 (-26)
    let arguments : List Value := [.list [.decimal nines, .decimal nines]]
    castItems (flatten arguments) (.one .number) = .ok ([nines, nines].map .decimal) ∧
      (∀ d ∈ [nines, nines], d.isFinite) ∧ (∀ d ∈ [nines, nines], IsShort d.toRat) ∧
      MeanInRange [nines, nines] ∧
      max.invoke (some (.one .number)) arguments = .ok (.decimal nines) ∧
      average.invoke (some (.one .number)) arguments = .ok (.decimal ten) ∧
      nines.toRat < ten.toRat := by
  intro nines ten arguments
  let twenty : Decimal := .finite false 2000000000000000000000000000 (-26)
  have first : Decimal.zero.add nines = .ok nines := by rfl
  have second : nines.add nines = .ok twenty := by rfl
  have divided : twenty.divNat 2 = .ok ten := by rfl
  have added : total (.decimal .zero) ([nines, nines].map .decimal) = .ok (.decimal twenty) := by
    rfl
  have zero : Decimal.zero.toRat = 0 := Decimal.toRat_zero false 0
  obtain ⟨large, twenty_eq, less⟩ : 1 ≤ nines.toRat ∧ twenty.toRat = 20 ∧
      nines.toRat < ten.toRat := by
    simp only [nines, ten, twenty, Decimal.toRat_finite, Decimal.signed_false]
    norm_num
  have cast : castItems (flatten arguments) (.one .number) =
      .ok ([nines, nines].map .decimal) := by rfl
  refine ⟨cast, by decide, ?_, ⟨⟨.of_one_le first ?_, fun _ found => ?_⟩, fun _ found => ?_⟩,
    by rfl, invoke_average (List.cons_ne_nil _ _) (List.cons_ne_nil _ _) cast added divided, less⟩
  · simp only [List.forall_mem_cons, List.not_mem_nil, false_implies, implies_true, and_true]
    have short : IsShort nines.toRat := Decimal.isShort_toRat false (by decide) (-27)
    exact ⟨short, short⟩
  · rw [zero, zero_add]
    exact large.trans (le_abs_self _)
  · cases first.symm.trans found
    exact ⟨.of_one_le second (le_trans (by linarith) (le_abs_self _)), fun _ _ => trivial⟩
  · cases added.symm.trans found
    exact .of_one_le divided (by norm_num [twenty_eq])

end Means

end Stencil.Function
