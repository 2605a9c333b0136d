import Stencil.Proofs.Cast.Failure
import Stencil.Proofs.Function.Result

/-!
# Failures of the standard functions

A standard function of ordinary arguments fails with an error for the caller, or it breaks down in
one of two ways: an item of the arguments cannot be shown, or a decimal operation is trapped. Only
the functions that calculate or compare run decimal operations. Every result is read again once it
is written, if the arguments are.
-/

namespace Stencil

open Json (IsKept IsShown)
open Outcome (FailsOnly)
open Value (AllScalars)

namespace Function

/-- The breakdown of a decimal operation. -/
def IsTrapped (failure : Failure) : Prop := ∃ trap, failure = .defect (.ofTrap trap)

/-- A decimal operation breaks down where it is trapped. -/
theorem failsOnly_ofTrap {α : Type} (x : Except Decimal.Trap α) :
    FailsOnly IsTrapped (Outcome.ofTrap x) := by
  cases x with
  | error trap => exact .error ⟨trap, rfl⟩
  | ok a => exact .ok a

section Numbers

variable {kind : Kind}

/-- The sum of two numbers of a kind breaks down where it is trapped. -/
theorem failsOnly_addValues (numeric : IsNumeric kind) {a b : Value} (first : IsOfKind kind a)
    (second : IsOfKind kind b) : FailsOnly IsTrapped (addValues a b) := by
  rcases numeric with rfl | rfl
  · obtain ⟨m, rfl⟩ := first
    obtain ⟨n, rfl⟩ := second
    exact .ok _
  · obtain ⟨d, rfl⟩ := first
    obtain ⟨e, rfl⟩ := second
    exact (failsOnly_ofTrap _).map _

/-- The comparison of two numbers of a kind breaks down where it is trapped. -/
theorem failsOnly_lessValue (numeric : IsNumeric kind) {a b : Value} (first : IsOfKind kind a)
    (second : IsOfKind kind b) : FailsOnly IsTrapped (lessValue a b) := by
  rcases numeric with rfl | rfl
  · obtain ⟨m, rfl⟩ := first
    obtain ⟨n, rfl⟩ := second
    exact .ok _
  · obtain ⟨d, rfl⟩ := first
    obtain ⟨e, rfl⟩ := second
    exact failsOnly_ofTrap _

/-- The sum of any numbers of a kind breaks down where an addition is trapped. -/
theorem failsOnly_total (numeric : IsNumeric kind) {items : List Value} {start : Value}
    (first : IsOfKind kind start) (all : ∀ item ∈ items, IsOfKind kind item) :
    FailsOnly IsTrapped (total start items) :=
  .foldlM (fun _ item holds among => failsOnly_addValues numeric holds (all item among))
    (fun _ item _ holds among added => isOfKind_addValues numeric holds (all item among) added)
    first

/-- The choice of the best of numbers of a kind breaks down where a comparison is trapped. -/
theorem failsOnly_pick {better : Value → Value → Outcome Bool} {items : List Value}
    (all : ∀ item ∈ items, IsOfKind kind item)
    (compares : ∀ a b, IsOfKind kind a → IsOfKind kind b → FailsOnly IsTrapped (better a b)) :
    FailsOnly IsTrapped (pick better items) := by
  cases items with
  | nil => exact .ok _
  | cons first rest =>
    obtain ⟨isOfKind, others⟩ := List.forall_mem_cons.mp all
    -- the best item so far is of the kind, as all are
    refine FailsOnly.foldlM (fun best item holds among => ?_)
      (fun best item next holds among h => ?_) isOfKind
    · exact (compares item best (others item among) holds).bind fun wins => .ok _
    · obtain ⟨wins, -, chosen⟩ := Outcome.exists_of_bind_eq_ok h
      cases wins <;> cases chosen
      · exact holds
      · exact others item among

end Numbers

/-- A failure of casting one of some items. -/
def FailsAsItem (items : List Value) (failure : Failure) : Prop :=
  ∃ item ∈ items, FailsShowing item failure

/-- Items are cast to numbers, unless one of them is refused or cannot be shown. -/
theorem failsOnly_castItems {kind : Kind} (numeric : IsNumeric kind) (items : List Value) :
    FailsOnly (FailsAsItem items) (castItems items (.one kind)) := by
  refine .mapM_of_mem fun item among => ?_
  have cast : FailsOnly (FailsShowing item) (castTo item (.one kind)) := by
    rcases numeric with rfl | rfl
    · exact failsOnly_castInteger item
    · exact failsOnly_castNumber item
  exact cast.mono fun failure fails => ⟨item, among, fails⟩

/-- A failure of a function of numbers: of the cast of an item, or of a decimal operation. -/
def FailsAsNumbers (items : List Value) (failure : Failure) : Prop :=
  FailsAsItem items failure ∨ IsTrapped failure

/-- Casting items to a kind of numbers and going on with them. -/
theorem failsOnly_castItems_bind {kind : Kind} (numeric : IsNumeric kind) (items : List Value)
    {next : List Value → Outcome Value}
    (h : ∀ cast, (∀ item ∈ cast, IsOfKind kind item) → FailsOnly IsTrapped (next cast)) :
    FailsOnly (FailsAsNumbers items) (castItems items (.one kind) >>= next) := by
  have first := (failsOnly_castItems numeric items).mono
    fun failure fails => (.inl fails : FailsAsNumbers items failure)
  exact first.bind_of_ok fun cast found =>
    (h cast (isOfKind_of_castItems found)).mono fun failure trapped => .inr trapped

section Results

variable {v : Value}

/-- The result of a decimal operation that stays within the limits is read again once it is
written. -/
theorem isKept_of_trap {x : Except Decimal.Trap Decimal} (within : ∀ d, x = .ok d → d.IsWithin)
    (h : (Outcome.ofTrap x).map Value.decimal = .ok v) : AllScalars IsKept v := by
  obtain ⟨d, found, rfl⟩ := Outcome.exists_of_map_eq_ok h
  cases x with
  | error => cases found
  | ok e =>
    cases found
    exact within d rfl

/-- The sum of any two numbers is read again once it is written. -/
theorem isKept_addValues {a b : Value} (h : addValues a b = .ok v) : AllScalars IsKept v := by
  unfold addValues at h
  split at h
  · cases h
    trivial
  · exact isKept_of_trap (fun d => Decimal.isWithin_add) h
  · exact isKept_of_trap (fun d => Decimal.isWithin_add) h
  · exact isKept_of_trap (fun d => Decimal.isWithin_add) h
  · cases h

/-- A sum is read again once it is written, if its start is. -/
theorem isKept_total {items : List Value} {start : Value} (first : AllScalars IsKept start)
    (h : total start items = .ok v) : AllScalars IsKept v := by
  unfold total at h
  induction items generalizing start with
  | nil =>
    cases h
    exact first
  | cons item rest ih =>
    rw [List.foldlM_cons] at h
    obtain ⟨next, added, h⟩ := Outcome.exists_of_bind_eq_ok h
    exact ih (isKept_addValues added) h

/-- The best of items that are cast to a kind is read again once it is written, if the items are. -/
theorem isKept_of_pick {better : Value → Value → Outcome Bool} {items cast : List Value}
    {kind : Kind} (kept : ∀ item ∈ items, AllScalars IsKept item)
    (all : castItems items (.one kind) = .ok cast) (h : pick better cast = .ok v) :
    AllScalars IsKept v := by
  rcases mem_of_pick h with rfl | among
  · trivial
  · obtain ⟨source, inside, found⟩ := Outcome.exists_of_mem_mapM all among
    exact allScalars_isKept_of_cast (kept source inside) found

/-- A mean is read again once it is written. -/
theorem isKept_applyAverage (requested : Option Tag) {arguments : List Value}
    (h : applyAverage requested arguments = .ok v) : AllScalars IsKept v := by
  obtain ⟨items, -, h⟩ := Outcome.exists_of_bind_eq_ok h
  split at h
  · cases h
    trivial
  · obtain ⟨sum, -, h⟩ := Outcome.exists_of_bind_eq_ok h
    split at h
    · exact isKept_of_trap (fun d => Decimal.isWithin_divNat) h
    · cases h

end Results

/-- The functions that run decimal operations. -/
def arithmetic : List String := ["sum", "min", "max", "average"]

/-- What is known of a function for a request and arguments. -/
structure Behaves (f : Function) (requested : Option Tag) (arguments : List Value) : Prop where
  /-- It fails as an item does, or as a decimal operation if it runs any. -/
  fails : FailsOnly (fun failure => FailsAsItem (flatten arguments) failure ∨
    f.name ∈ arithmetic ∧ IsTrapped failure) (f.apply requested arguments)
  /-- It gives a value that is read again once it is written. -/
  gives : ∀ v, f.apply requested arguments = .ok v → AllScalars IsKept v

section

variable {requested : Option Tag} {arguments : List Value}

/-- Numbers are cast to a kind of numbers if none but such a kind is requested. -/
theorem exists_numericTag (items : List Value)
    (accepted : ∀ tag, requested = some tag → tag ∈ [Tag.one .integer, .one .number]) :
    ∃ kind, numericTag items requested = .one kind ∧ IsNumeric kind := by
  cases requested with
  | none =>
    unfold numericTag
    simp only [Option.getD_none]
    split
    · exact ⟨.integer, rfl, .inl rfl⟩
    · exact ⟨.number, rfl, .inr rfl⟩
  | some tag => exact exists_numeric (accepted tag rfl)

/-- A function of numbers behaves if it fails as such functions do. -/
theorem Behaves.of_numbers {f : Function} (among : f.name ∈ arithmetic)
    (fails : FailsOnly (FailsAsNumbers (flatten arguments)) (f.apply requested arguments))
    (gives : ∀ v, f.apply requested arguments = .ok v → AllScalars IsKept v) :
    f.Behaves requested arguments where
  fails := fails.mono fun _ cause => cause.imp_right fun trapped => ⟨among, trapped⟩
  gives := gives

/-- A sum casts its items and adds them. -/
theorem behaves_sum
    (accepted : ∀ tag, requested = some tag → tag ∈ [Tag.one .integer, .one .number]) :
    sum.Behaves requested arguments := by
  obtain ⟨kind, tag, numeric⟩ := exists_numericTag (flatten arguments) accepted
  have start : IsOfKind kind
      (if Tag.one kind = .one .integer then Value.int 0 else .decimal .zero) := by
    rcases numeric with rfl | rfl
    · exact ⟨0, rfl⟩
    · exact ⟨.zero, rfl⟩
  refine .of_numbers (by decide) ?_ fun v h => ?_
  · dsimp only [sum, applySum]
    rw [tag]
    exact failsOnly_castItems_bind numeric _ fun cast all => failsOnly_total numeric start all
  · dsimp only [sum, applySum] at h
    rw [tag] at h
    obtain ⟨cast, found, h⟩ := Outcome.exists_of_bind_eq_ok h
    refine isKept_total ?_ h
    rcases numeric with rfl | rfl
    · trivial
    · have zero : (Decimal.ofInt 0).IsWithin :=
        Decimal.isWithin_ofInt (Number.isLong_eq_false (Number.pow10_pos _))
      exact zero

/-- The best item is chosen among the items cast to a kind of numbers. -/
theorem behaves_pick {f : Function} {better : Value → Value → Outcome Bool}
    (kept : ∀ item ∈ flatten arguments, AllScalars IsKept item) (among : f.name ∈ arithmetic)
    (applies : f.apply requested arguments = do
      pick better (← castItems (flatten arguments) (numericTag (flatten arguments) requested)))
    (compares : ∀ kind, IsNumeric kind → ∀ a b, IsOfKind kind a → IsOfKind kind b →
      FailsOnly IsTrapped (better a b))
    (accepted : ∀ tag, requested = some tag → tag ∈ [Tag.one .integer, .one .number]) :
    f.Behaves requested arguments := by
  obtain ⟨kind, tag, numeric⟩ := exists_numericTag (flatten arguments) accepted
  rw [tag] at applies
  refine .of_numbers among ?_ fun v h => ?_
  · rw [applies]
    exact failsOnly_castItems_bind numeric _ fun cast all =>
      failsOnly_pick all (compares kind numeric)
  · rw [applies] at h
    obtain ⟨cast, found, h⟩ := Outcome.exists_of_bind_eq_ok h
    exact isKept_of_pick kept found h

/-- A mean casts its items to decimal numbers, adds them and divides their sum. -/
theorem behaves_average : average.Behaves requested arguments := by
  have numeric : IsNumeric .number := .inr rfl
  refine .of_numbers (by decide) ?_ fun v => isKept_applyAverage requested
  · dsimp only [average, applyAverage]
    refine failsOnly_castItems_bind numeric _ fun cast all => ?_
    split
    · exact .ok _
    · have start : IsOfKind .number (.decimal .zero) := ⟨_, rfl⟩
      refine (failsOnly_total numeric start all).bind_of_ok fun sum added => ?_
      obtain ⟨d, rfl⟩ := isOfKind_total numeric start all added
      exact (failsOnly_ofTrap _).map _

/-- A count never fails. -/
theorem behaves_count : count.Behaves requested arguments where
  fails := .ok _
  gives v h := by
    cases h
    trivial

/-- A concatenation makes a text of every item. -/
theorem behaves_concat (kept : ∀ item ∈ flatten arguments, AllScalars IsKept item) :
    concat.Behaves requested arguments where
  fails := by
    have texts : FailsOnly (FailsAsItem (flatten arguments))
        ((flatten arguments).mapM Value.toText) :=
      .mapM_of_mem fun item among =>
        (failsOnly_toText (Json.allScalars_isOrdinary_of_isKept (kept item among))).mono
          fun failure fails => ⟨item, among, fails⟩
    refine FailsOnly.bind (texts.mono fun failure fails => .inl fails) fun parts => .ok _
  gives v h := by
    obtain ⟨parts, -, joined⟩ := Outcome.exists_of_bind_eq_ok h
    cases joined
    trivial

end

/-- The items of arguments have the scalars of the arguments. -/
theorem allScalars_of_mem_flatten {p : Value → Prop} {arguments : List Value}
    (all : ∀ v ∈ arguments, AllScalars p v) {item : Value}
    (among : item ∈ flatten arguments) : AllScalars p item := by
  obtain ⟨v, given, inside⟩ := List.mem_flatMap.mp among
  refine Value.allScalars_of_mem_elements (all v given) ?_
  cases v with
  | null => cases inside
  | list items => exact (List.mem_filter.mp inside).1
  | _ => exact inside

/-- How a function breaks down for arguments: an item of the arguments cannot be shown, or a decimal
operation is trapped, if the function runs any. -/
def BreaksBy (f : Function) (arguments : List Value) (d : Defect) : Prop :=
  (d = .value ∧ ∃ item ∈ flatten arguments, ¬AllScalars IsShown item) ∨
    (f.name ∈ arithmetic ∧ ∃ trap, d = .ofTrap trap)

section

variable {f : Function} {requested : Option Tag} {arguments : List Value}

/-- A function that behaves fails with an error or breaks down. -/
theorem Behaves.failsOnly_apply (behaves : f.Behaves requested arguments) :
    FailsOnly (Failure.IsErrorOr (f.BreaksBy arguments)) (f.apply requested arguments) := by
  refine behaves.fails.mono fun failure fails => ?_
  rcases fails with ⟨item, among, error | ⟨_, ⟨rfl, hidden⟩, rfl⟩⟩ | ⟨runs, trap, rfl⟩
  · exact .inl error
  · exact .inr ⟨.value, .inl ⟨rfl, item, among, hidden⟩, rfl⟩
  · exact .inr ⟨.ofTrap trap, .inr ⟨runs, trap, rfl⟩, rfl⟩

/-- A request that is not refused is for a type that the function produces. -/
theorem mem_types_of_refused? (accepted : f.refused? requested = none) {tag : Tag}
    (h : requested = some tag) : tag ∈ f.types := by
  subst h
  simpa [refused?, Option.filter] using accepted

end

end Function

namespace Registry

variable {name : String} {f : Function} {requested : Option Tag} {arguments : List Value}

/-- A name that is not known is an error. -/
theorem failsOnly_get (registry : Registry) (name : String) :
    FailsOnly Failure.IsError (registry.get name) := by
  unfold get
  split
  · exact .ok _
  · exact .error ⟨_, rfl⟩

/-- A standard function behaves for every request that it accepts and arguments that are read again
once they are written. -/
theorem behaves_of_get_standard (known : standard.get name = .ok f)
    (accepted : f.refused? requested = none)
    (kept : ∀ v ∈ arguments, AllScalars IsKept v) : f.Behaves requested arguments := by
  have types (tag : Tag) (h : requested = some tag) := Function.mem_types_of_refused? accepted h
  have items (item : Value) (inside : item ∈ Function.flatten arguments) :
      AllScalars IsKept item := Function.allScalars_of_mem_flatten kept inside
  obtain ⟨among, -⟩ := of_get_eq_ok known
  rw [functions_standard] at among
  simp only [builtins, List.mem_cons, List.not_mem_nil, or_false] at among
  rcases among with rfl | rfl | rfl | rfl | rfl | rfl
  · exact Function.behaves_sum types
  · exact Function.behaves_pick items (by decide) rfl
      (fun _ numeric _ _ first second => Function.failsOnly_lessValue numeric first second) types
  · exact Function.behaves_pick items (by decide) rfl
      (fun _ numeric _ _ first second => Function.failsOnly_lessValue numeric second first) types
  · exact Function.behaves_average
  · exact Function.behaves_count
  · exact Function.behaves_concat items

/-- A call of a standard function with such arguments fails with an error or breaks down. -/
theorem failsOnly_invoke_standard (known : standard.get name = .ok f)
    (kept : ∀ v ∈ arguments, AllScalars IsKept v) :
    FailsOnly (Failure.IsErrorOr (f.BreaksBy arguments)) (f.invoke requested arguments) := by
  unfold Function.invoke
  split
  · exact .error (.inl ⟨_, rfl⟩)
  · next accepted =>
    split
    · exact .error (.inl ⟨_, rfl⟩)
    · exact (behaves_of_get_standard known accepted kept).failsOnly_apply

/-- A call of a standard function with such arguments gives such a value. -/
theorem isKept_of_invoke_standard (known : standard.get name = .ok f)
    (kept : ∀ v ∈ arguments, AllScalars IsKept v) {v : Value}
    (h : f.invoke requested arguments = .ok v) : AllScalars IsKept v := by
  unfold Function.invoke at h
  split at h
  · cases h
  · next accepted =>
    split at h
    · cases h
    · exact (behaves_of_get_standard known accepted kept).gives v h

end Registry

end Stencil
