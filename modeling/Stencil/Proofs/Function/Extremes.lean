import Stencil.Proofs.Decimal.Exact
import Stencil.Proofs.Function.Sum

/-!
# Least and greatest items

The least and the greatest item are chosen among the cast items and are not calculated: each is the
first item that none of them passes, with its own digits and exponent. There is none exactly if no
item counts. Their values depend neither on the order of the items nor on how these are spread over
the arguments.
-/

namespace Stencil

namespace Value

/-- The exact value of a number; whatever is no finite number has the value zero. -/
def toRat (v : Value) : ℚ := (v.numeric?.getD .zero).toRat

/-- A number that has an exact value: an integer or a finite decimal number. -/
def IsExact (v : Value) : Prop := (∃ n, v = .int n) ∨ ∃ d, v = .decimal d ∧ d.isFinite

/-- A number is not null. -/
theorem IsExact.ne_null {v : Value} (number : v.IsExact) : v ≠ .null := by
  rcases number with ⟨n, rfl⟩ | ⟨d, rfl, -⟩
  · exact nofun
  · exact nofun

end Value

namespace Function

open Decimal (less_eq isFinite_ofInt)
open Value (IsExact)

/-- Numbers are compared by their exact values. -/
theorem lessValue_eq {a b : Value} (first : a.IsExact) (second : b.IsExact) :
    lessValue a b = .ok (decide (a.toRat < b.toRat)) := by
  have integer (n : Int) : (Decimal.ofInt n).toRat = n := by
    rw [Decimal.ofInt, Decimal.toRat_finite, Decimal.signed_ofInt, zpow_zero, mul_one]
  have value (n : Int) : (Value.int n).toRat = n := integer n
  rcases first with ⟨m, rfl⟩ | ⟨d, rfl, finite⟩
  · rcases second with ⟨n, rfl⟩ | ⟨e, rfl, finite'⟩
    · rw [lessValue, value, value]
      simp only [Int.cast_lt]
    · rw [lessValue, less_eq (isFinite_ofInt m) finite']
      rfl
  · rcases second with ⟨n, rfl⟩ | ⟨e, rfl, finite'⟩
    · rw [lessValue, less_eq finite (isFinite_ofInt n)]
      rfl
    · rw [lessValue, less_eq finite finite']
      rfl

section Choice

variable {le : ℚ → ℚ → Prop} [DecidableRel le] {items : List Value}

/-- The first item that no item passes; null if there is none. -/
def extreme (le : ℚ → ℚ → Prop) [DecidableRel le] (items : List Value) : Value :=
  (items.find? fun v => items.all fun w => le v.toRat w.toRat).getD .null

/-- If there is an item that no item passes, the first such item is one of the items. -/
theorem extreme_mem (chosen : extreme le items ≠ .null) : extreme le items ∈ items := by
  unfold extreme at chosen ⊢
  cases found : items.find? fun v => items.all fun w => le v.toRat w.toRat with
  | none =>
    rw [found] at chosen
    exact absurd rfl chosen
  | some v => exact List.mem_of_find?_eq_some found

/-- An item that no item passes, and that passes all items before it, is the first such item. -/
theorem extreme_eq {before after : List Value} {best : Value}
    (all : ∀ w ∈ before ++ best :: after, le best.toRat w.toRat)
    (earlier : ∀ w ∈ before, ¬le w.toRat best.toRat) :
    extreme le (before ++ best :: after) = best := by
  have found : ((before ++ best :: after).find? fun v =>
      (before ++ best :: after).all fun w => le v.toRat w.toRat) = some best := by
    rw [List.find?_eq_some_iff_append]
    refine ⟨List.all_eq_true.mpr fun w among => decide_eq_true (all w among), before, after, rfl,
      fun w among => ?_⟩
    rw [Bool.not_eq_true', List.all_eq_false]
    exact ⟨best, List.mem_append_right _ List.mem_cons_self, by simpa using earlier w among⟩
  rw [extreme, found, Option.getD_some]

/-- Going through items and keeping the better one of two ends with one that no item passes, and
that passes all items before it. -/
theorem exists_pick [IsTrans ℚ le] [Std.Total le] {better : Value → Value → Outcome Bool}
    {first : Value} {rest : List Value}
    (compares : ∀ v ∈ first :: rest, ∀ w ∈ first :: rest,
      better v w = .ok (decide ¬le w.toRat v.toRat)) :
    ∃ before best after, first :: rest = before ++ best :: after ∧
      pick better (first :: rest) = .ok best ∧
      (∀ w ∈ before, ¬le w.toRat best.toRat) ∧ ∀ w ∈ best :: after, le best.toRat w.toRat := by
  have refl (x : ℚ) : le x x := (Std.Total.total x x).elim id id
  -- by induction on the items to come; `first` is the best item so far
  induction rest generalizing first with
  | nil =>
    refine ⟨[], first, [], rfl, pick_singleton better first, nofun, fun w among => ?_⟩
    rw [List.mem_singleton.mp among]
    exact refl _
  | cons item rest ih =>
    have step : pick better (first :: item :: rest) =
        pick better ((if ¬le first.toRat item.toRat then item else first) :: rest) := by
      rw [pick, List.foldlM_cons,
        compares item (List.mem_cons_of_mem _ List.mem_cons_self) first List.mem_cons_self]
      by_cases passed : le first.toRat item.toRat <;> simp [passed, pick]
    rw [step]
    by_cases kept : le first.toRat item.toRat
    · rw [if_neg (not_not_intro kept)]
      have sub : first :: rest ⊆ first :: item :: rest :=
        List.cons_subset_cons _ (List.subset_cons_self _ _)
      obtain ⟨before, best, after, split, picked, earlier, later⟩ :=
        ih fun v among w among' => compares v (sub among) w (sub among')
      cases before with
      | nil =>
        obtain ⟨rfl, rfl⟩ := List.cons.inj split
        exact ⟨[], first, item :: rest, rfl, picked, nofun,
          List.forall_mem_cons.mpr ⟨refl _, List.forall_mem_cons.mpr
            ⟨kept, fun w among => later w (List.mem_cons_of_mem _ among)⟩⟩⟩
      | cons _ before =>
        obtain ⟨rfl, rfl⟩ := List.cons.inj split
        obtain ⟨behind, others⟩ := List.forall_mem_cons.mp earlier
        have item_behind : ¬le item.toRat best.toRat := fun reached =>
          behind (IsTrans.trans _ _ _ kept reached)
        exact ⟨first :: item :: before, best, after, rfl, picked,
          List.forall_mem_cons.mpr ⟨behind, List.forall_mem_cons.mpr ⟨item_behind, others⟩⟩,
          later⟩
    · rw [if_pos kept]
      obtain ⟨before, best, after, split, picked, earlier, later⟩ := ih fun v among w among' =>
        compares v (List.mem_cons_of_mem _ among) w (List.mem_cons_of_mem _ among')
      have reached : le best.toRat item.toRat := by
        cases before with
        | nil =>
          obtain ⟨rfl, -⟩ := List.cons.inj split
          exact refl _
        | cons _ before =>
          obtain ⟨rfl, -⟩ := List.cons.inj split
          exact (Std.Total.total _ _).resolve_left (earlier item List.mem_cons_self)
      exact ⟨first :: before, best, after, by rw [split]; rfl, picked,
        List.forall_mem_cons.mpr
          ⟨fun passed => kept (IsTrans.trans _ _ _ passed reached), earlier⟩, later⟩

/-- Going through items and keeping the better one of two chooses the first item that no item
passes, which is none only if there are no items. -/
theorem pick_eq_extreme [IsTrans ℚ le] [Std.Total le] {better : Value → Value → Outcome Bool}
    (compares : ∀ v ∈ items, ∀ w ∈ items, better v w = .ok (decide ¬le w.toRat v.toRat)) :
    pick better items = .ok (extreme le items) ∧
      (items ≠ [] → extreme le items ∈ items) ∧
      ∀ w ∈ items, le (extreme le items).toRat w.toRat := by
  cases items with
  | nil => exact ⟨rfl, fun none => absurd rfl none, nofun⟩
  | cons first rest =>
    obtain ⟨before, best, after, split, picked, earlier, later⟩ := exists_pick compares
    have all : ∀ w ∈ before ++ best :: after, le best.toRat w.toRat := by
      intro w among
      rcases List.mem_append.mp among with there | there
      · exact (Std.Total.total _ _).resolve_right (earlier w there)
      · exact later w there
    rw [picked, split, extreme_eq all earlier]
    exact ⟨rfl, fun _ => List.mem_append_right _ List.mem_cons_self, all⟩

end Choice

section Extremes

variable {le : ℚ → ℚ → Prop} [DecidableRel le] {better : Value → Value → Outcome Bool}
variable {f : Function} {kind : Kind} {tag : Option Tag} {arguments items : List Value}

/-- Items that are cast to a kind of numbers are exact, unless a decimal number is not finite. -/
theorem isExact_of_castItems (numeric : IsNumeric kind)
    (cast : castItems (flatten arguments) (.one kind) = .ok items)
    (finite : ∀ d, Value.decimal d ∈ items → d.isFinite) : ∀ v ∈ items, v.IsExact := by
  intro v among
  have ofKind := isOfKind_of_castItems cast v among
  rcases numeric with rfl | rfl
  · exact .inl ofKind
  · obtain ⟨d, rfl⟩ := ofKind
    exact .inr ⟨d, rfl, finite d among⟩

/-- There are as many cast items as items. -/
theorem castItems_eq_nil_iff (cast : castItems (flatten arguments) (.one kind) = .ok items) :
    items = [] ↔ flatten arguments = [] := by
  cases sources : flatten arguments with
  | nil =>
    rw [sources] at cast
    cases cast
    exact iff_of_true rfl rfl
  | cons source rest =>
    rw [sources, castItems, List.mapM_cons] at cast
    obtain ⟨first, -, cast⟩ := Outcome.exists_of_bind_eq_ok cast
    obtain ⟨later, -, cast⟩ := Outcome.exists_of_bind_eq_ok cast
    cases cast
    exact iff_of_false (List.cons_ne_nil _ _) (List.cons_ne_nil _ _)

/-- A function chooses an item of some arguments and calculates nothing. -/
structure Chooses (le : ℚ → ℚ → Prop) [DecidableRel le] (f : Function) (tag : Option Tag)
    (arguments items : List Value) : Prop where
  /-- Its result is the first cast item that no cast item passes. -/
  first : f.invoke tag arguments = .ok (extreme le items)
  /-- No cast item passes the result. -/
  reaches : ∀ w ∈ items, le (extreme le items).toRat w.toRat
  /-- The result is null exactly if there are no items but null. -/
  null_iff : extreme le items = .null ↔ flatten arguments = []
  /-- In any other order of the items, and however they are spread over arguments, the result has
  the same value. -/
  regrouped : ∀ others, others ≠ [] → IsRegrouped arguments others →
    ∃ v, f.invoke tag others = .ok v ∧ (v = .null ↔ extreme le items = .null) ∧
      v.toRat = (extreme le items).toRat

/-- A function that keeps the better one of two cast items, by their exact values, chooses. -/
theorem chooses_of_compares [IsTrans ℚ le] [Std.Total le] [Std.Antisymm le]
    (types : f.types = [.one .integer, .one .number]) (least : f.minArguments = 1)
    (applies : ∀ tag arguments, f.apply tag arguments =
      castItems (flatten arguments) (numericTag (flatten arguments) tag) >>= pick better)
    (compares : ∀ v w : Value, v.IsExact → w.IsExact →
      better v w = .ok (decide ¬le w.toRat v.toRat))
    (numeric : IsNumeric kind) (given : arguments ≠ [])
    (target : numericTag (flatten arguments) tag = .one kind)
    (cast : castItems (flatten arguments) (.one kind) = .ok items)
    (finite : ∀ d, Value.decimal d ∈ items → d.isFinite) : Chooses le f tag arguments items := by
  have apart {items : List Value} (all : ∀ v ∈ items, v.IsExact) :=
    pick_eq_extreme fun v among w among' => compares v w (all v among) (all w among')
  have result {arguments items : List Value} (given : arguments ≠ [])
      (target : numericTag (flatten arguments) tag = .one kind)
      (cast : castItems (flatten arguments) (.one kind) = .ok items)
      (all : ∀ v ∈ items, v.IsExact) :
      f.invoke tag arguments = .ok (extreme le items) ∧
        (extreme le items = .null ↔ flatten arguments = []) := by
    obtain ⟨picked, inside, -⟩ := apart all
    refine ⟨?_, ?_⟩
    · rw [invoke_eq_apply types least numeric given target, applies, target, cast,
        Outcome.ok_bind, picked]
    · rw [← castItems_eq_nil_iff cast]
      refine ⟨fun null => ?_, fun none => by rw [none]; rfl⟩
      by_contra some_item
      exact (all _ (inside some_item)).ne_null null
  have all := isExact_of_castItems numeric cast finite
  obtain ⟨-, inside, reaches⟩ := apart all
  obtain ⟨invoked, null_iff⟩ := result given target cast all
  refine ⟨invoked, reaches, null_iff, fun others given' regrouped => ?_⟩
  obtain ⟨target', later, cast', order⟩ := regrouped.exists_castItems target cast
  have all' : ∀ v ∈ later, v.IsExact := fun v among => all v (order.mem_iff.mpr among)
  obtain ⟨invoked', null_iff'⟩ := result given' target' cast' all'
  obtain ⟨-, inside', reaches'⟩ := apart all'
  refine ⟨_, invoked', ?_, ?_⟩
  · rw [null_iff, null_iff', ← castItems_eq_nil_iff cast, ← castItems_eq_nil_iff cast']
    exact ⟨fun none => (none ▸ order).eq_nil, fun none => (none ▸ order).nil_eq.symm⟩
  · by_cases none : items = []
    · subst none
      rw [order.nil_eq]
    · have some_later : later ≠ [] := fun none' => none (none' ▸ order).eq_nil
      exact Std.Antisymm.antisymm _ _ (reaches' _ (order.mem_iff.mp (inside none)))
        (reaches _ (order.mem_iff.mpr (inside' some_later)))

/-- The least item is chosen. -/
theorem chooses_min (numeric : IsNumeric kind) (given : arguments ≠ [])
    (target : numericTag (flatten arguments) tag = .one kind)
    (cast : castItems (flatten arguments) (.one kind) = .ok items)
    (finite : ∀ d, Value.decimal d ∈ items → d.isFinite) :
    Chooses (· ≤ ·) min tag arguments items := by
  refine chooses_of_compares rfl rfl (fun _ _ => rfl) (fun v w number number' => ?_) numeric given
    target cast finite
  rw [lessValue_eq number number']
  simp only [not_le]

/-- The greatest item is chosen. -/
theorem chooses_max (numeric : IsNumeric kind) (given : arguments ≠ [])
    (target : numericTag (flatten arguments) tag = .one kind)
    (cast : castItems (flatten arguments) (.one kind) = .ok items)
    (finite : ∀ d, Value.decimal d ∈ items → d.isFinite) :
    Chooses (· ≥ ·) max tag arguments items := by
  refine chooses_of_compares rfl rfl (fun _ _ => rfl) (fun v w number number' => ?_) numeric given
    target cast finite
  rw [lessValue_eq number' number]
  simp only [ge_iff_le, not_le]

/-- The least item is the first cast item that is at most every cast item, and the greatest item the
first one that is at least every cast item, each as it was cast. They are null exactly if no item
but null is given, and neither the order of the items nor how they are spread over arguments changes
their values. -/
theorem chooses_extremes {kind : Kind} {tag : Option Tag} {arguments items : List Value}
    (numeric : IsNumeric kind) (given : arguments ≠ [])
    (target : numericTag (flatten arguments) tag = .one kind)
    (cast : castItems (flatten arguments) (.one kind) = .ok items)
    (finite : ∀ d, Value.decimal d ∈ items → d.isFinite) :
    Chooses (· ≤ ·) min tag arguments items ∧ Chooses (· ≥ ·) max tag arguments items :=
  ⟨chooses_min numeric given target cast finite, chooses_max numeric given target cast finite⟩

/-- Of a text and a decimal number of the same value the first one is the least item, however far
away the greatest one is; and a change of the order does not change that value. -/
theorem chooses_extremes_tie :
    let one : Value := .decimal (.finite false 10 (-1))
    let again : Value := .decimal (.finite false 100 (-2))
    let huge : Value := .decimal (.finite false 3 40)
    let arguments : List Value := [.list [.text "1.0", .null, huge], again]
    let others : List Value := [again, .list [.text "1.0", .null, huge]]
    castItems (flatten arguments) (.one .number) = .ok [one, huge, again] ∧
      extreme (· ≤ ·) [one, huge, again] = one ∧ extreme (· ≥ ·) [one, huge, again] = huge ∧
      IsRegrouped arguments others ∧
      ∃ v, min.invoke none others = .ok v ∧ v.toRat = one.toRat := by
  intro one again huge arguments others
  have cast : castItems (flatten arguments) (.one .number) = .ok [one, huge, again] := by rfl
  have finite : ∀ d, Value.decimal d ∈ [one, huge, again] → d.isFinite := by
    intro d among
    simp only [List.mem_cons, List.not_mem_nil, or_false, one, huge, again,
      Value.decimal.injEq] at among
    rcases among with rfl | rfl | rfl <;> rfl
  have regrouped : IsRegrouped arguments others := List.perm_append_singleton again _
  have target : numericTag (flatten arguments) none = .one .number := by rfl
  obtain ⟨least, greatest⟩ :=
    chooses_extremes (.inr rfl) (List.cons_ne_nil _ _) target cast finite
  have isLeast : extreme (· ≤ ·) [one, huge, again] = one := by
    have invoked : min.invoke none arguments = .ok one := by rfl
    exact Except.ok.inj (least.first.symm.trans invoked)
  have isGreatest : extreme (· ≥ ·) [one, huge, again] = huge := by
    have invoked : max.invoke none arguments = .ok huge := by rfl
    exact Except.ok.inj (greatest.first.symm.trans invoked)
  obtain ⟨v, invoked, -, value⟩ := least.regrouped others (List.cons_ne_nil _ _) regrouped
  exact ⟨cast, isLeast, isGreatest, regrouped, v, invoked, isLeast ▸ value⟩

end Extremes

end Function

end Stencil
