import Stencil.Proofs.Cast
import Stencil.Proofs.Json.Writable

/-!
# Failures of casts

A cast is refused with an error for the caller, or it breaks down because the value holds a number
that is too long to be shown. The report of a refused cast shows the value as well.
-/

namespace Stencil

open Json (HasForm IsKept IsOrdinary IsShown)
open Outcome (FailsOnly)
open Value (AllScalars)

/-- An error that the caller is told about. -/
def Failure.IsError (failure : Failure) : Prop := ∃ e, failure = .error e

/-- An error for the caller, or the breakdown of a basic operation in one of the given ways. -/
def Failure.IsErrorOr (breaks : Defect → Prop) (failure : Failure) : Prop :=
  failure.IsError ∨ ∃ d, breaks d ∧ failure = .defect d

/-- How showing a value breaks down: something in it cannot be shown. -/
def IsUnshown (v : Value) (d : Defect) : Prop := d = .value ∧ ¬AllScalars IsShown v

/-- A failure of what may have to show a value: an error for the caller, or that the value cannot be
shown. -/
def FailsShowing (v : Value) : Failure → Prop := Failure.IsErrorOr (IsUnshown v)

/-- The values that a cast to a list casts, and that a list part goes through. -/
def Value.elements : Value → List Value
  | .list items => items
  | v => [v]

namespace Value

variable {p : Value → Prop} {v : Value}

/-- The elements of a value have its scalars. -/
theorem allScalars_of_mem_elements (all : AllScalars p v) {w : Value} (inside : w ∈ v.elements) :
    AllScalars p w := by
  cases v with
  | list items => exact allItems_iff.mp all w inside
  | _ =>
    rw [List.mem_singleton.mp inside]
    exact all

/-- A value of scalars that can be shown holds no integer that is too long. -/
theorem holdsLong_of_isShown (shown : AllScalars IsShown v) : v.holdsLong = false := by
  refine holdsLong_eq_false v (AllScalars.mono (fun scalar shown => ?_) v shown)
  cases scalar with
  | int n => exact shown
  | moment | bytes | set | pair | list | object => cases shown
  | _ => rfl

end Value

/-- Writing a value fails only if the value cannot be shown. -/
theorem failsOnly_write {v : Value} (layout : Json.Layout) (ordinary : AllScalars IsOrdinary v) :
    FailsOnly (FailsShowing v) (Json.write layout v) := by
  intro failure h
  by_cases shown : AllScalars IsShown v
  · obtain ⟨text, written⟩ := Json.exists_write layout ordinary shown
    rw [written] at h
    cases h
  · rw [Json.write_eq_defect layout ordinary shown] at h
    cases h
    exact .inr ⟨.value, ⟨rfl, shown⟩, rfl⟩

/-- A text cannot be made of a value only if the value cannot be shown. -/
theorem failsOnly_toText {v : Value} (ordinary : AllScalars IsOrdinary v) :
    FailsOnly (FailsShowing v) v.toText := by
  have written := failsOnly_write .compact ordinary
  cases v with
  | int | list | object => exact written
  | moment | bytes | set | pair => cases ordinary
  | _ => exact .ok _

/-- A refused cast fails with an error, unless the value cannot be shown. -/
theorem failsOnly_castFailure {α : Type} (v : Value) (kind : Kind) :
    FailsOnly (FailsShowing v) (castFailure v kind : Outcome α) := by
  unfold castFailure
  split
  · next long =>
    refine .error (.inr ⟨.value, ⟨rfl, fun shown => ?_⟩, rfl⟩)
    rw [Value.holdsLong_of_isShown shown] at long
    cases long
  · exact .error (.inl ⟨_, rfl⟩)

/-- A cast to integer is done or refused. -/
theorem failsOnly_castInteger (v : Value) : FailsOnly (FailsShowing v) (castInteger v) := by
  unfold castInteger
  cases v with
  | int n => exact .ok _
  | text | decimal | binary =>
    dsimp only
    split
    · exact .ok _
    · exact failsOnly_castFailure _ _
  | _ => exact failsOnly_castFailure _ _

/-- A cast to number is done or refused; the digits of an integer have to be shown. -/
theorem failsOnly_castNumber (v : Value) : FailsOnly (FailsShowing v) (castNumber v) := by
  unfold castNumber
  cases v with
  | decimal d => exact .ok _
  | int n =>
    dsimp only
    split
    · next long =>
      refine .error (.inr ⟨.value, ⟨rfl, fun shown : Number.isLong n = false => ?_⟩, rfl⟩)
      rw [long] at shown
      cases shown
    · exact .ok _
  | text | binary =>
    dsimp only
    split
    · exact .ok _
    · exact failsOnly_castFailure _ _
  | _ => exact failsOnly_castFailure _ _

/-- A cast to truth value is done or refused: a decimal number that has a form is not signaling. -/
theorem failsOnly_castBoolean {v : Value} (formed : AllScalars HasForm v) :
    FailsOnly (FailsShowing v) (castBoolean v) := by
  unfold castBoolean
  cases v with
  | decimal d =>
    cases d with
    | finite => exact .ok _
    | _ => cases formed
  | bool | int | binary | text => exact .ok _
  | _ => exact failsOnly_castFailure _ _

/-- A cast of a value that has a form fails with an error, unless the value cannot be shown. -/
theorem failsOnly_cast {v : Value} (formed : AllScalars HasForm v) (kind : Kind) :
    FailsOnly (FailsShowing v) (cast v kind) := by
  cases kind with
  | string => exact (failsOnly_toText (Json.allScalars_isOrdinary formed)).map _
  | integer => exact failsOnly_castInteger v
  | number => exact failsOnly_castNumber v
  | boolean => exact failsOnly_castBoolean formed
  | object => exact .ok _

/-- An item other than null is cast as a value is. -/
theorem castItem_of_ne_null {v : Value} (kind : Kind) (h : v ≠ .null) :
    castItem kind v = cast v kind := by
  cases v with
  | null => exact absurd rfl h
  | _ => rfl

/-- A cast of an item fails as the cast of a value does, and null is kept. -/
theorem failsOnly_castItem {v : Value} (formed : AllScalars HasForm v) (kind : Kind) :
    FailsOnly (FailsShowing v) (castItem kind v) := by
  unfold castItem
  split
  · exact .ok _
  · exact failsOnly_cast formed kind

/-- A cast of a list casts its elements. -/
theorem castList_eq (v : Value) (kind : Kind) :
    castList v kind = (v.elements.mapM (castItem kind)).map .list := by
  cases v <;> rfl

/-- What a value is cast to as a number is read again once it is written, if the value is. -/
theorem allScalars_isKept_of_castNumber {v w : Value} (kept : AllScalars IsKept v)
    (h : castNumber v = .ok w) : AllScalars IsKept w := by
  unfold castNumber at h
  cases v with
  | decimal d =>
    cases h
    exact kept
  | int n =>
    dsimp only at h
    split at h
    · cases h
    · next short =>
      cases h
      exact Decimal.isWithin_ofInt (Bool.of_not_eq_true short)
  | text | binary =>
    dsimp only at h
    split at h
    · next d read =>
      cases h
      exact Decimal.isWithin_of_read? read
    · exact absurd h castFailure_ne_ok
  | _ => exact absurd h castFailure_ne_ok

/-- What a value is cast to is read again once it is written, if the value is. -/
theorem allScalars_isKept_of_cast {v w : Value} {kind : Kind} (kept : AllScalars IsKept v)
    (h : cast v kind = .ok w) : AllScalars IsKept w := by
  cases kind with
  | object =>
    cases h
    exact kept
  | number => exact allScalars_isKept_of_castNumber kept h
  | _ =>
    obtain ⟨_, rfl⟩ := isOfKind_cast h
    trivial

/-- The items that a value is cast to are read again once they are written, if the value is. -/
theorem allScalars_isKept_of_castList {v w : Value} {kind : Kind} (kept : AllScalars IsKept v)
    (h : castList v kind = .ok w) : AllScalars IsKept w := by
  rw [castList_eq] at h
  obtain ⟨items, found, rfl⟩ := Outcome.exists_of_map_eq_ok h
  refine Value.allItems_iff.mpr fun item among => ?_
  obtain ⟨source, inside, found⟩ := Outcome.exists_of_mem_mapM found among
  unfold castItem at found
  split at found
  · cases found
    trivial
  · exact allScalars_isKept_of_cast (Value.allScalars_of_mem_elements kept inside) found

end Stencil
