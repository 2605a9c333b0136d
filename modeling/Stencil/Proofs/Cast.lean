import Stencil.Cast
import Stencil.Proofs.Outcome

/-!
# Kinds of cast values

What a cast gives is of the kind that was asked for, whatever the value was. A cast of a list gives
a list in which every item is null or of that kind.
-/

namespace Stencil

/-- A value of a kind. Every value is an object. -/
def IsOfKind : Kind → Value → Prop
  | .string, v => ∃ s, v = .text s
  | .integer, v => ∃ n, v = .int n
  | .number, v => ∃ d, v = .decimal d
  | .boolean, v => ∃ b, v = .bool b
  | .object, _ => True

/-- Null, or a value of a kind. -/
def IsNullOrKind (kind : Kind) (v : Value) : Prop := v = .null ∨ IsOfKind kind v

/-- A value of the type that a tag asks for: null, a value of its kind, or a list of items each of
which is null or of its kind. -/
def Conforms : Tag → Value → Prop
  | .one kind, v => IsNullOrKind kind v
  | .many kind, v => v = .null ∨ ∃ items, v = .list items ∧ ∀ item ∈ items, IsNullOrKind kind item

/-- Null is of no kind but that of all values. -/
theorem eq_object_of_isOfKind_null {kind : Kind} (h : IsOfKind kind .null) : kind = .object := by
  cases kind with
  | object => rfl
  | _ =>
    obtain ⟨_, same⟩ := h
    cases same

/-- A refused cast gives nothing. -/
theorem castFailure_ne_ok {v w : Value} {kind : Kind} : castFailure v kind ≠ .ok w := by
  unfold castFailure
  split <;> intro h <;> cases h

/-- A cast to integer gives an integer. -/
theorem isOfKind_castInteger {v w : Value} (h : castInteger v = .ok w) : IsOfKind .integer w := by
  unfold castInteger at h
  cases v with
  | int n =>
    cases h
    exact ⟨n, rfl⟩
  | text | decimal | binary =>
    dsimp only at h
    split at h
    · cases h
      exact ⟨_, rfl⟩
    · exact absurd h castFailure_ne_ok
  | _ => exact absurd h castFailure_ne_ok

/-- A cast to number gives a decimal number. -/
theorem isOfKind_castNumber {v w : Value} (h : castNumber v = .ok w) : IsOfKind .number w := by
  unfold castNumber at h
  cases v with
  | decimal d =>
    cases h
    exact ⟨d, rfl⟩
  | int n =>
    dsimp only at h
    split at h
    · cases h
    · cases h
      exact ⟨_, rfl⟩
  | text | binary =>
    dsimp only at h
    split at h
    · cases h
      exact ⟨_, rfl⟩
    · exact absurd h castFailure_ne_ok
  | _ => exact absurd h castFailure_ne_ok

/-- A cast to truth value gives a truth value. -/
theorem isOfKind_castBoolean {v w : Value} (h : castBoolean v = .ok w) : IsOfKind .boolean w := by
  unfold castBoolean at h
  cases v with
  | decimal d =>
    obtain ⟨b, -, rfl⟩ := Outcome.exists_of_map_eq_ok h
    exact ⟨b, rfl⟩
  | bool | int | binary | text =>
    cases h
    exact ⟨_, rfl⟩
  | _ => exact absurd h castFailure_ne_ok

/-- A cast gives a value of the kind. -/
theorem isOfKind_cast {v w : Value} {kind : Kind} (h : cast v kind = .ok w) : IsOfKind kind w := by
  unfold cast at h
  cases kind with
  | string =>
    obtain ⟨s, -, rfl⟩ := Outcome.exists_of_map_eq_ok h
    exact ⟨s, rfl⟩
  | integer => exact isOfKind_castInteger h
  | number => exact isOfKind_castNumber h
  | boolean => exact isOfKind_castBoolean h
  | object => trivial

/-- An item of a cast list is null or of the kind. -/
theorem isNullOrKind_castItem {v w : Value} {kind : Kind} (h : castItem kind v = .ok w) :
    IsNullOrKind kind w := by
  unfold castItem at h
  split at h
  · cases h
    exact .inl rfl
  · exact .inr (isOfKind_cast h)

/-- A cast list is a list of such items. -/
theorem exists_of_castList {v w : Value} {kind : Kind} (h : castList v kind = .ok w) :
    ∃ items, w = .list items ∧ ∀ item ∈ items, IsNullOrKind kind item := by
  obtain ⟨items, cast, rfl⟩ := Outcome.exists_of_map_eq_ok h
  refine ⟨items, rfl, fun item among => ?_⟩
  obtain ⟨source, -, found⟩ := Outcome.exists_of_mem_mapM cast among
  exact isNullOrKind_castItem found

end Stencil
