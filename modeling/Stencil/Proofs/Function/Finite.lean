import Stencil.Proofs.Decimal.Finite
import Stencil.Proofs.Function.Failure
import Stencil.Proofs.Json.Standard

/-!
# Casts and functions of finite numbers

Casts and the standard functions make finite numbers of finite numbers. Only a text gives them
another one: a text may spell an infinity or an undefined number, and a cast to number takes it.
-/

namespace Stencil

open Json (IsFinite)
open Value (AllScalars)

/-- A text that spells an infinite or an undefined number. -/
def SpellsSpecial (s : String) : Prop :=
  ∃ d, Decimal.read? (Text.trim s.toList) = some d ∧ d.isFinite = false

section Casts

variable {v w : Value} {kind : Kind}

/-- A value of a kind is finite, unless it is a number that is not or the kind is that of all
values. -/
theorem isFinite_of_isOfKind (h : IsOfKind kind v) (proper : kind ≠ .object)
    (other : kind ≠ .number) : AllScalars IsFinite v := by
  cases kind with
  | object => exact absurd rfl proper
  | number => exact absurd rfl other
  | _ =>
    obtain ⟨_, rfl⟩ := h
    trivial

/-- A finite value is cast to a finite number, unless it is a text that spells another one. -/
theorem isFinite_of_castNumber (finite : AllScalars IsFinite v)
    (plain : ∀ s, v = .text s → ¬SpellsSpecial s) (h : castNumber v = .ok w) :
    AllScalars IsFinite w := by
  unfold castNumber at h
  cases v with
  | decimal d =>
    cases h
    exact finite
  | int n =>
    dsimp only at h
    split at h
    · cases h
    · cases h
      exact Decimal.isFinite_ofInt n
  | text s =>
    dsimp only at h
    split at h
    · next d read =>
      cases h
      exact Bool.of_not_eq_false fun special => plain s rfl ⟨d, read, special⟩
    · exact absurd h castFailure_ne_ok
  | binary => cases finite
  | _ => exact absurd h castFailure_ne_ok

/-- A finite value is cast to a finite one, unless it is cast to number and is a text that spells
another one. -/
theorem isFinite_of_cast (finite : AllScalars IsFinite v)
    (plain : kind = .number → ∀ s, v = .text s → ¬SpellsSpecial s) (h : cast v kind = .ok w) :
    AllScalars IsFinite w := by
  by_cases any : kind = .object
  · subst any
    cases h
    exact finite
  · by_cases number : kind = .number
    · subst number
      exact isFinite_of_castNumber finite (plain rfl) h
    · exact isFinite_of_isOfKind (isOfKind_cast h) any number

/-- The same of the cast of an item; null is kept. -/
theorem isFinite_of_castItem (finite : AllScalars IsFinite v)
    (plain : kind = .number → ∀ s, v = .text s → ¬SpellsSpecial s)
    (h : castItem kind v = .ok w) : AllScalars IsFinite w := by
  unfold castItem at h
  split at h
  · cases h
    trivial
  · exact isFinite_of_cast finite plain h

/-- The same of the cast of a list. -/
theorem isFinite_of_castList (finite : AllScalars IsFinite v)
    (plain : ∀ item ∈ v.elements, kind = .number → ∀ s, item = .text s → ¬SpellsSpecial s)
    (h : castList v kind = .ok w) : AllScalars IsFinite w := by
  rw [castList_eq] at h
  obtain ⟨items, found, rfl⟩ := Outcome.exists_of_map_eq_ok h
  refine Value.allItems_iff.mpr fun item among => ?_
  obtain ⟨source, inside, cast⟩ := Outcome.exists_of_mem_mapM found among
  have sourceFinite := Value.allScalars_of_mem_elements finite inside
  exact isFinite_of_castItem sourceFinite (plain source inside) cast

end Casts

namespace Function

/-- A decimal operation that gives finite numbers only. -/
theorem isFinite_of_trap {x : Except Decimal.Trap Decimal} {v : Value}
    (finite : ∀ d, x = .ok d → d.isFinite) (h : (Outcome.ofTrap x).map Value.decimal = .ok v) :
    AllScalars IsFinite v := by
  obtain ⟨d, found, rfl⟩ := Outcome.exists_of_map_eq_ok h
  cases x with
  | error => cases found
  | ok e =>
    cases found
    exact finite d rfl

/-- The sum of two finite numbers is finite. -/
theorem isFinite_addValues {a b sum : Value} (first : AllScalars IsFinite a)
    (second : AllScalars IsFinite b) (h : addValues a b = .ok sum) : AllScalars IsFinite sum := by
  unfold addValues at h
  split at h
  · cases h
    trivial
  · exact isFinite_of_trap (fun d => Decimal.isFinite_add first second) h
  · exact isFinite_of_trap (fun d => Decimal.isFinite_add (Decimal.isFinite_ofInt _) second) h
  · exact isFinite_of_trap (fun d => Decimal.isFinite_add first (Decimal.isFinite_ofInt _)) h
  · cases h

/-- A sum of finite numbers is finite. -/
theorem isFinite_total {items : List Value} {start sum : Value} (first : AllScalars IsFinite start)
    (all : ∀ item ∈ items, AllScalars IsFinite item) (h : total start items = .ok sum) :
    AllScalars IsFinite sum := by
  unfold total at h
  induction items generalizing start with
  | nil =>
    cases h
    exact first
  | cons item rest ih =>
    rw [List.foldlM_cons] at h
    obtain ⟨next, added, h⟩ := Outcome.exists_of_bind_eq_ok h
    obtain ⟨itemFinite, restFinite⟩ := List.forall_mem_cons.mp all
    exact ih (isFinite_addValues first itemFinite added) restFinite h

/-- Items without texts of special numbers. -/
def ArePlain (items : List Value) : Prop :=
  ∀ item ∈ items, AllScalars IsFinite item ∧ ∀ s, item = .text s → ¬SpellsSpecial s

/-- Such items are cast to finite values. -/
theorem isFinite_of_castItems {items cast : List Value} {tag : Tag} (plain : ArePlain items)
    (h : castItems items tag = .ok cast) : ∀ item ∈ cast, AllScalars IsFinite item := by
  intro item among
  obtain ⟨source, inside, found⟩ := Outcome.exists_of_mem_mapM h among
  obtain ⟨finite, noSpecial⟩ := plain source inside
  cases tag with
  | one kind => exact isFinite_of_cast finite (fun _ => noSpecial) found
  | many kind =>
    rw [castTo] at found
    split at found
    · cases found
    · cases found

section Results

variable {requested : Option Tag} {arguments : List Value} {v : Value}

/-- A sum of such items is finite. -/
theorem isFinite_applySum (plain : ArePlain (flatten arguments))
    (h : applySum requested arguments = .ok v) : AllScalars IsFinite v := by
  obtain ⟨items, cast, h⟩ := Outcome.exists_of_bind_eq_ok h
  refine isFinite_total ?_ (isFinite_of_castItems plain cast) h
  split
  · trivial
  · exact Decimal.isFinite_ofInt 0

/-- A mean of such items is finite. -/
theorem isFinite_applyAverage (requested : Option Tag) (plain : ArePlain (flatten arguments))
    (h : applyAverage requested arguments = .ok v) : AllScalars IsFinite v := by
  obtain ⟨items, cast, h⟩ := Outcome.exists_of_bind_eq_ok h
  have all := isFinite_of_castItems plain cast
  have start : AllScalars IsFinite (.decimal .zero) := Decimal.isFinite_ofInt 0
  split at h
  · cases h
    trivial
  · obtain ⟨sum, added, h⟩ := Outcome.exists_of_bind_eq_ok h
    have finite := isFinite_total start all added
    split at h
    · exact isFinite_of_trap (fun d => Decimal.isFinite_divNat finite) h
    · cases h

/-- The best of such items is finite. -/
theorem isFinite_of_pick {better : Value → Value → Outcome Bool} {items cast : List Value}
    {tag : Tag} (plain : ArePlain items) (all : castItems items tag = .ok cast)
    (h : pick better cast = .ok v) : AllScalars IsFinite v := by
  rcases mem_of_pick h with rfl | among
  · trivial
  · exact isFinite_of_castItems plain all v among

end Results

end Function

namespace Registry

/-- A standard function makes a finite value of finite arguments, unless it calculates or compares
and a text among the items of its arguments spells another number. -/
theorem isFinite_of_invoke_standard {name : String} {f : Function} {requested : Option Tag}
    {arguments : List Value} {v : Value} (known : standard.get name = .ok f)
    (finite : ∀ v ∈ arguments, AllScalars IsFinite v)
    (plain : f.name ∈ Function.arithmetic →
      ∀ s, .text s ∈ Function.flatten arguments → ¬SpellsSpecial s)
    (h : f.invoke requested arguments = .ok v) : AllScalars IsFinite v := by
  obtain ⟨among, -⟩ := of_get_eq_ok known
  have items (calculates : f.name ∈ Function.arithmetic) :
      Function.ArePlain (Function.flatten arguments) := by
    intro item inside
    refine ⟨Function.allScalars_of_mem_flatten finite inside, ?_⟩
    rintro s rfl
    exact plain calculates s inside
  unfold Function.invoke at h
  split at h
  · cases h
  · split at h
    · cases h
    · rw [functions_standard] at among
      simp only [builtins, List.mem_cons, List.not_mem_nil, or_false] at among
      rcases among with rfl | rfl | rfl | rfl | rfl | rfl
      · exact Function.isFinite_applySum (items (by decide)) h
      · obtain ⟨cast, all, picked⟩ := Outcome.exists_of_bind_eq_ok h
        exact Function.isFinite_of_pick (items (by decide)) all picked
      · obtain ⟨cast, all, picked⟩ := Outcome.exists_of_bind_eq_ok h
        exact Function.isFinite_of_pick (items (by decide)) all picked
      · exact Function.isFinite_applyAverage requested (items (by decide)) h
      · cases h
        trivial
      · obtain ⟨parts, -, joined⟩ := Outcome.exists_of_bind_eq_ok h
        cases joined
        trivial

end Registry

end Stencil
