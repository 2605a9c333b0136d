import Mathlib.Data.Set.List
import Stencil.Proofs.Cast.Failure
import Stencil.Proofs.Decimal.Exact
import Stencil.Proofs.Function.Result

/-!
# Exact sums of arguments

A sum of integers is exact at any size. A sum of finite decimal numbers is exact if every partial
sum from the left can be held, whatever digits and exponents the items have. Neither depends on how
the items are spread over the arguments, and the exact value does not depend on their order.
-/

namespace Stencil.Function

open Decimal (Fits)
open Outcome (exists_of_bind_eq_ok)

section Items

variable {arguments others : List Value}

/-- The items that arguments list: those of a list, and any other argument itself. -/
def listed (arguments : List Value) : List Value := arguments.flatMap Value.elements

/-- Arguments that list the same items in some order, each alone or in a list with others. -/
def IsRegrouped (arguments others : List Value) : Prop := (listed arguments).Perm (listed others)

/-- What counts of the listed items are those that are not null. -/
theorem flatten_eq_filter (arguments : List Value) :
    flatten arguments = (listed arguments).filter fun item => !item.isNull := by
  have each (v : Value) : itemsOf v = v.elements.filter fun item => !item.isNull := by
    cases v <;> rfl
  rw [flatten, listed, List.filter_flatMap]
  exact congrArg (List.flatMap · arguments) (funext each)

/-- Regrouped arguments have the same items that count, in some order. -/
theorem IsRegrouped.perm_flatten (regrouped : IsRegrouped arguments others) :
    (flatten arguments).Perm (flatten others) := by
  rw [flatten_eq_filter, flatten_eq_filter]
  exact regrouped.filter _

/-- The type of numbers does not depend on the order of items. -/
theorem numericTag_of_perm {items later : List Value} (order : items.Perm later)
    (tag : Option Tag) : numericTag items tag = numericTag later tag := by
  rw [numericTag, numericTag, order.all_eq]

end Items

section Totals

/-- Integers are added exactly. -/
theorem total_int (start : Int) (ns : List Int) :
    total (.int start) (ns.map .int) = .ok (.int (start + ns.sum)) := by
  induction ns generalizing start with
  | nil => rw [List.map_nil, List.sum_nil, Int.add_zero, total_nil]
  | cons n ns ih =>
    rw [total, List.map_cons, List.foldlM_cons, List.sum_cons, ← Int.add_assoc]
    exact ih (start + n)

/-- Every partial sum from the left, after a start, can be held. -/
def PartialSumsFit (start : ℚ) (ds : List Decimal) : Prop :=
  ∀ before, before <+: ds → Fits (start + (before.map Decimal.toRat).sum)

/-- Finite numbers are added exactly as long as every partial sum can be held. -/
theorem exists_total {start : Decimal} {ds : List Decimal} (first : start.isFinite)
    (finite : ∀ d ∈ ds, d.isFinite) (fit : PartialSumsFit start.toRat ds) :
    ∃ sum, total (.decimal start) (ds.map .decimal) = .ok (.decimal sum) ∧
      sum.toRat = start.toRat + (ds.map Decimal.toRat).sum := by
  induction ds generalizing start with
  | nil => exact ⟨start, total_nil _, by rw [List.map_nil, List.sum_nil, add_zero]⟩
  | cons d ds ih =>
    have next : Fits (start.toRat + d.toRat) := by
      have alone := fit [d] ⟨ds, rfl⟩
      rwa [List.map_singleton, List.sum_singleton] at alone
    obtain ⟨partial_sum, added, isFinite, value⟩ :=
      Decimal.exists_add first (finite d List.mem_cons_self) next
    have later : PartialSumsFit partial_sum.toRat ds := by
      intro before starts
      have whole := fit (d :: before) ((List.prefix_cons_inj d).mpr starts)
      rwa [List.map_cons, List.sum_cons, ← add_assoc, ← value] at whole
    obtain ⟨sum, folded, total_value⟩ :=
      ih isFinite (fun e among => finite e (List.mem_cons_of_mem d among)) later
    refine ⟨sum, ?_, ?_⟩
    · rw [total, List.map_cons, List.foldlM_cons, addValues, added]
      exact folded
    · rw [total_value, value, List.map_cons, List.sum_cons, add_assoc]

end Totals

section Sums

variable {tag : Option Tag} {arguments others items : List Value} {kind : Kind}

/-- A function of numbers that is called for items of a kind of numbers is applied. -/
theorem invoke_eq_apply {f : Function} (types : f.types = [.one .integer, .one .number])
    (least : f.minArguments = 1) (numeric : IsNumeric kind) (given : arguments ≠ [])
    (target : numericTag items tag = .one kind) :
    f.invoke tag arguments = f.apply tag arguments := by
  have accepted : f.refused? tag = none := by
    cases tag with
    | none => rfl
    | some requested =>
      obtain rfl : requested = .one kind := target
      rw [refused?, types]
      rcases numeric with rfl | rfl <;> rfl
  have enough : ¬(arguments.length : Int) < f.minArguments := by
    have some := List.length_pos_iff.mpr given
    rw [least]
    omega
  rw [invoke, accepted]
  dsimp only
  rw [if_neg enough]

/-- Where the items are cast to a kind of numbers they are added from zero. -/
theorem invoke_sum (numeric : IsNumeric kind) (given : arguments ≠ [])
    (target : numericTag (flatten arguments) tag = .one kind)
    (cast : castItems (flatten arguments) (.one kind) = .ok items) :
    sum.invoke tag arguments =
      total (if kind = .integer then .int 0 else .decimal .zero) items := by
  rw [invoke_eq_apply rfl rfl numeric given target, sum]
  dsimp only
  rw [applySum, target, cast, Outcome.ok_bind]
  rcases numeric with rfl | rfl <;> rfl

/-- Items cast to a kind are made of contents, if all values of the kind are. -/
theorem exists_map_of_castItems {α : Type} {make : α → Value}
    (made : ∀ v, IsOfKind kind v → ∃ a, v = make a)
    (cast : castItems (flatten arguments) (.one kind) = .ok items) :
    ∃ contents : List α, items = contents.map make := by
  have all : items ∈ Set.range (List.map make) := by
    rw [Set.range_list_map]
    intro item among
    obtain ⟨a, rfl⟩ := made item (isOfKind_of_castItems cast item among)
    exact ⟨a, rfl⟩
  obtain ⟨contents, same⟩ := all
  exact ⟨contents, same.symm⟩

/-- Regrouped arguments are cast to the same kind, with the same results in some order. -/
theorem IsRegrouped.exists_castItems (regrouped : IsRegrouped arguments others)
    (target : numericTag (flatten arguments) tag = .one kind)
    (cast : castItems (flatten arguments) (.one kind) = .ok items) :
    numericTag (flatten others) tag = .one kind ∧
      ∃ later, castItems (flatten others) (.one kind) = .ok later ∧
        items.Perm later := by
  have order := regrouped.perm_flatten
  exact ⟨(numericTag_of_perm order tag).symm.trans target,
    Outcome.exists_mapM_of_perm order cast⟩

/-- A sum of integers is exact, however the items are grouped and ordered. -/
theorem invoke_sum_int {ns : List Int} (target : numericTag (flatten arguments) tag = .one .integer)
    (cast : castItems (flatten arguments) (.one .integer) = .ok (ns.map .int))
    (given : others ≠ []) (regrouped : IsRegrouped arguments others) :
    sum.invoke tag others = .ok (.int ns.sum) := by
  obtain ⟨target', later, cast', order⟩ := regrouped.exists_castItems target cast
  obtain ⟨ms, rfl⟩ := exists_map_of_castItems (fun _ => id) cast'
  have order : ns.Perm ms := (List.map_perm_map_iff fun _ _ => Value.int.inj).mp order
  rw [invoke_sum (.inl rfl) given target' cast', if_pos rfl, total_int, Int.zero_add, order.sum_eq]

/-- A sum of finite decimal numbers is exact if every partial sum can be held. -/
theorem exists_invoke_sum {ds : List Decimal} (given : arguments ≠ [])
    (target : numericTag (flatten arguments) tag = .one .number)
    (cast : castItems (flatten arguments) (.one .number) = .ok (ds.map .decimal))
    (finite : ∀ d ∈ ds, d.isFinite) (fit : PartialSumsFit 0 ds) :
    ∃ total, sum.invoke tag arguments = .ok (.decimal total) ∧
      total.toRat = (ds.map Decimal.toRat).sum := by
  have zero : Decimal.zero.toRat = 0 := Decimal.toRat_zero false 0
  have fit' : PartialSumsFit Decimal.zero.toRat ds := zero ▸ fit
  obtain ⟨total, folded, value⟩ := exists_total rfl finite fit'
  refine ⟨total, ?_, by rw [value, zero, zero_add]⟩
  rw [invoke_sum (.inr rfl) given target cast, if_neg nofun]
  exact folded

/-- Sums are exact while they fit. Where the items of some arguments are cast to integers, their sum
is exact at any size, and the same for every order of the items and every way to spread them over
arguments. Where they are cast to finite decimal numbers, the sum has the exact value if every
partial sum from the left, starting at zero, can be held; so it does in every other order and
spreading in which this is the case. -/
theorem invoke_sum_exact {tag : Option Tag} {arguments items : List Value}
    (given : arguments ≠ [])
    (cast : castItems (flatten arguments) (numericTag (flatten arguments) tag) = .ok items) :
    (numericTag (flatten arguments) tag = .one .integer →
      ∃ ns : List Int, items = ns.map .int ∧
        sum.invoke tag arguments = .ok (.int ns.sum) ∧
        ∀ others, others ≠ [] → IsRegrouped arguments others →
          sum.invoke tag others = .ok (.int ns.sum)) ∧
    (numericTag (flatten arguments) tag = .one .number →
      ∃ ds : List Decimal, items = ds.map .decimal ∧ ((∀ d ∈ ds, d.isFinite) →
        (PartialSumsFit 0 ds → ∃ total, sum.invoke tag arguments = .ok (.decimal total) ∧
          total.toRat = (ds.map Decimal.toRat).sum) ∧
        ∀ others, others ≠ [] → IsRegrouped arguments others →
          ∃ es : List Decimal, ds.Perm es ∧
            castItems (flatten others) (numericTag (flatten others) tag) =
              .ok (es.map .decimal) ∧
            (PartialSumsFit 0 es → ∃ total, sum.invoke tag others = .ok (.decimal total) ∧
              total.toRat = (ds.map Decimal.toRat).sum))) := by
  constructor
  · intro target
    rw [target] at cast
    obtain ⟨ns, rfl⟩ := exists_map_of_castItems (fun _ => id) cast
    exact ⟨ns, rfl, invoke_sum_int target cast given (.refl _),
      fun others given' regrouped => invoke_sum_int target cast given' regrouped⟩
  · intro target
    rw [target] at cast
    obtain ⟨ds, rfl⟩ := exists_map_of_castItems (fun _ => id) cast
    refine ⟨ds, rfl, fun finite => ⟨exists_invoke_sum given target cast finite, ?_⟩⟩
    intro others given' regrouped
    obtain ⟨target', later, cast', order⟩ := regrouped.exists_castItems target cast
    obtain ⟨es, rfl⟩ := exists_map_of_castItems (fun _ => id) cast'
    have order : ds.Perm es := (List.map_perm_map_iff fun _ _ => Value.decimal.inj).mp order
    have finite' : ∀ e ∈ es, e.isFinite := fun e among => finite e (order.mem_iff.mpr among)
    refine ⟨es, order, target' ▸ cast', fun fit => ?_⟩
    obtain ⟨total, added, value⟩ := exists_invoke_sum given' target' cast' finite' fit
    exact ⟨total, added, value.trans (order.map Decimal.toRat).sum_eq.symm⟩

/-- Two large numbers cancel out before a small one is added; two integers of forty digits lie in
different arguments. -/
theorem invoke_sum_exact_far :
    let huge : Decimal := .finite false 1 30
    let back : Decimal := .finite true 1 30
    let half : Decimal := .finite false 5 (-1)
    let arguments : List Value := [.list [.decimal huge, .null, .decimal back], .text "0.5"]
    let n : Int := 1234567890123456789012345678901234567890
    castItems (flatten arguments) (numericTag (flatten arguments) none) =
        .ok [.decimal huge, .decimal back, .decimal half] ∧
      (∃ total, sum.invoke none arguments = .ok (.decimal total) ∧ total.toRat = 1 / 2) ∧
      castItems (flatten [.int n, .list [.int n]]) (.one .integer) = .ok [.int n, .int n] ∧
      IsRegrouped [.int n, .list [.int n]] [.list [.int n, .int n]] ∧
      sum.invoke (some (.one .integer)) [.list [.int n, .int n]] = .ok (.int (n + n)) := by
  intro huge back half arguments n
  have cast : castItems (flatten arguments) (numericTag (flatten arguments) none) =
      .ok [.decimal huge, .decimal back, .decimal half] := by rfl
  have castInt : castItems (flatten [.int n, .list [.int n]]) (.one .integer) =
      .ok [.int n, .int n] := by rfl
  have regrouped : IsRegrouped [.int n, .list [.int n]] [.list [.int n, .int n]] := .refl _
  refine ⟨cast, ?_, castInt, regrouped, ?_⟩
  · obtain ⟨-, numbers⟩ := invoke_sum_exact (List.cons_ne_nil _ _) cast
    obtain ⟨ds, same, exact⟩ := numbers rfl
    obtain rfl : [huge, back, half] = ds :=
      List.map_injective_iff.mpr (fun _ _ => Value.decimal.inj) same
    have finite : ∀ d ∈ [huge, back, half], d.isFinite := by decide
    have fit : PartialSumsFit 0 [huge, back, half] := by
      have large : Fits huge.toRat := .of_few (by decide) (by decide) (by decide) (by decide)
      have small : Fits half.toRat := .of_few (by decide) (by decide) (by decide) (by decide)
      have cancel : huge.toRat + back.toRat = 0 := by
        rw [Decimal.toRat_finite, Decimal.toRat_finite, Decimal.signed_false, Decimal.signed_true]
        norm_num
      intro before starts
      simp only [List.prefix_cons_iff, List.prefix_nil] at starts
      rcases starts with rfl | ⟨_, rfl, rfl | ⟨_, rfl, rfl | ⟨_, rfl, rfl⟩⟩⟩
      · simpa using Fits.zero
      · simpa using large
      · simpa [cancel] using Fits.zero
      · simpa [← add_assoc, cancel] using small
    obtain ⟨total, added, value⟩ := (exact finite).1 fit
    refine ⟨total, added, value.trans ?_⟩
    simp only [List.map_cons, List.map_nil, List.sum_cons, List.sum_nil, huge, back, half,
      Decimal.toRat_finite, Decimal.signed_false, Decimal.signed_true]
    norm_num
  · obtain ⟨integers, -⟩ := @invoke_sum_exact (some (.one .integer)) [.int n, .list [.int n]]
      [.int n, .int n] (List.cons_ne_nil _ _) castInt
    obtain ⟨ns, same, -, anywhere⟩ := integers rfl
    obtain rfl : [n, n] = ns := List.map_injective_iff.mpr (fun _ _ => Value.int.inj) same
    rw [anywhere _ (List.cons_ne_nil _ _) regrouped, List.sum_cons, List.sum_singleton]

end Sums

end Stencil.Function
