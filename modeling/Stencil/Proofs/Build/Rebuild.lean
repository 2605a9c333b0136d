import Stencil.Proofs.Build.Conformance
import Stencil.Proofs.Build.Operation
import Stencil.Proofs.Build.Scalar
import Stencil.Proofs.Decimal.Value
import Stencil.Proofs.Json.Standard

/-!
# Building a built value again

A built value that is put under a key and queried with its own tag comes back. On the way it is
written and read, which puts integers in place of its numbers without a fraction, and cast to the
kind that it already is of, which makes them decimal numbers again where the tag asks for those.
Numbers keep their values in both.
-/

namespace Stencil

open Value (AllScalars AllItems AllMembers mapScalars mapItems mapMembers same sameItems)

namespace Json

mutual

/-- Integers are put in place of numbers scalar by scalar. -/
theorem mapScalars_integral (v : Value) : mapScalars integral v = integral v := by
  cases v with
  | list items => rw [mapScalars, integral, mapItems_integral items]
  | object members => rw [mapScalars, integral, mapMembers_integral members]
  | _ => rfl
  termination_by structural v

/-- The same of items. -/
theorem mapItems_integral (items : List Value) : mapItems integral items = integralItems items := by
  cases items with
  | nil => rfl
  | cons item rest =>
    rw [mapItems, integralItems, mapScalars_integral item, mapItems_integral rest]
  termination_by structural items

/-- The same of members. -/
theorem mapMembers_integral (members : List (Key × Value)) :
    mapMembers integral members = integralMembers members := by
  cases members with
  | nil => rfl
  | cons member rest =>
    obtain ⟨key, item⟩ := member
    rw [mapMembers, integralMembers, mapScalars_integral item, mapMembers_integral rest]
  termination_by structural members

end

/-- A finite scalar equals the integer in its place. -/
theorem same_integral_scalar {s : Value} (finite : IsFinite s) : same (integral s) s = true := by
  cases s with
  | null => rfl
  | bool b => exact decide_eq_true rfl
  | text s => exact decide_eq_true rfl
  | int n => exact beq_iff_eq.mpr (Decimal.compare?_self rfl)
  | decimal d =>
    cases d with
    | finite negative coefficient exponent =>
      rw [integral, integralDecimal]
      by_cases whole : 0 ≤ exponent
      · rw [if_pos whole]
        exact beq_iff_eq.mpr (Decimal.compare?_ofInt_signed negative coefficient whole)
      · rw [if_neg whole]
        exact beq_iff_eq.mpr (Decimal.compare?_self rfl)
    | _ => cases finite
  | _ => cases finite

/-- A value with finite numbers equals the value with integers in place of those without a
fraction. -/
theorem same_integral {v : Value} (finite : AllScalars IsFinite v) :
    same (integral v) v = true := by
  have keeps : ∀ s, IsFinite s → (same (integral s) s = true ↔ True) :=
    fun s finite => iff_of_true (same_integral_scalar finite) trivial
  have anything : AllScalars (fun _ => True) v := AllScalars.mono (fun _ _ => trivial) v finite
  rw [← mapScalars_integral]
  exact (Value.same_mapScalars_iff keeps v finite).mpr anything

/-- Only a list becomes a list. -/
theorem exists_of_integral_eq_list {v : Value} {items : List Value} (h : integral v = .list items) :
    ∃ items', v = .list items' := by
  cases v with
  | list items' => exact ⟨items', rfl⟩
  | decimal d =>
    cases d with
    | finite negative coefficient exponent =>
      rw [integral, integralDecimal] at h
      split at h <;> cases h
    | _ => cases h
  | _ => cases h

/-- A finite scalar that is read again has a form. -/
theorem hasForm_of_isFinite {s : Value} (kept : IsKept s) (finite : IsFinite s) : HasForm s := by
  cases s with
  | decimal d =>
    cases d with
    | finite => exact kept
    | _ => cases finite
  | _ => exact kept

/-- A value of finite scalars that is read again is one of scalars that have a form. -/
theorem allScalars_hasForm_of_isFinite {v : Value} (kept : AllScalars IsKept v)
    (finite : AllScalars IsFinite v) : AllScalars HasForm v :=
  AllScalars.mono (fun _ both => hasForm_of_isFinite both.1 both.2) v
    (AllScalars.and v kept finite)

/-- What was written can be written. -/
theorem isShown_of_write {v : Value} {layout : Layout} {text : String}
    (ordinary : AllScalars IsOrdinary v) (written : write layout v = .ok text) :
    AllScalars IsShown v := by
  refine Classical.byContradiction fun hidden => ?_
  rw [write_eq_defect layout ordinary hidden] at written
  cases written

end Json

open Json (HasForm IsFinite IsKept IsShown integral integralItems)

section Casts

variable {kind : Kind}

/-- A short integer is cast to the decimal number of its value. -/
theorem castItem_number_int {n : Int} (short : Number.isLong n = false) :
    castItem .number (.int n) = .ok (.decimal (.ofInt n)) := by
  have cast : castItem .number (.int n) =
      if Number.isLong n then Outcome.defect .value else .ok (.decimal (.ofInt n)) := rfl
  rw [cast, short, if_neg Bool.false_ne_true]

/-- An item that is of a kind is cast to that kind again after it was written and read: it comes
back with the same value. -/
theorem exists_castItem_integral {item : Value} (fits : IsNullOrKind kind item)
    (finite : AllScalars IsFinite item) (shown : AllScalars IsShown item) :
    ∃ w, castItem kind (integral item) = .ok w ∧ same w item = true := by
  have equal := Json.same_integral finite
  rcases fits with rfl | isOfKind
  · exact ⟨.null, rfl, rfl⟩
  · cases kind with
    | string =>
      obtain ⟨s, rfl⟩ := isOfKind
      exact ⟨.text s, rfl, equal⟩
    | integer =>
      obtain ⟨n, rfl⟩ := isOfKind
      exact ⟨.int n, rfl, equal⟩
    | boolean =>
      obtain ⟨b, rfl⟩ := isOfKind
      exact ⟨.bool b, rfl, equal⟩
    | object =>
      refine ⟨integral item, ?_, equal⟩
      cases integral item <;> rfl
    | number =>
      obtain ⟨d, rfl⟩ := isOfKind
      cases d with
      | finite negative coefficient exponent =>
        have short : (Json.integralDecimal (.finite negative coefficient exponent)).holdsLong =
            false := shown
        rw [Json.integralDecimal] at short
        rw [integral, Json.integralDecimal] at equal ⊢
        by_cases whole : 0 ≤ exponent
        · rw [if_pos whole] at short equal ⊢
          exact ⟨_, castItem_number_int short, equal⟩
        · rw [if_neg whole] at equal ⊢
          exact ⟨_, rfl, equal⟩
      | _ => cases finite

/-- So do the items of a list. -/
theorem exists_mapM_castItem_integral {items : List Value}
    (fit : ∀ item ∈ items, IsNullOrKind kind item) (finite : AllItems IsFinite items)
    (shown : AllItems IsShown items) :
    ∃ ws, (integralItems items).mapM (castItem kind) = .ok ws ∧ sameItems ws items = true := by
  induction items with
  | nil => exact ⟨[], rfl, rfl⟩
  | cons item rest ih =>
    obtain ⟨first, others⟩ := List.forall_mem_cons.mp fit
    obtain ⟨w, cast, equal⟩ := exists_castItem_integral first finite.1 shown.1
    obtain ⟨ws, casts, equals⟩ := ih others finite.2 shown.2
    refine ⟨w :: ws, ?_, ?_⟩
    · rw [integralItems, List.mapM_cons, cast, Outcome.ok_bind, casts]
      rfl
    · rw [sameItems, equal, equals, Bool.and_self]

end Casts

namespace Builder

variable {tag : Tag} {v : Value}

/-- A value that conforms to a tag gives itself when it is found by a query with that tag. A list is
not found as a single value. -/
theorem exists_fromFound_integral (conforms : Conforms tag v) (visible : v ≠ .null)
    (single : tag = .one .object → ∀ items, v ≠ .list items) (finite : AllScalars IsFinite v)
    (shown : AllScalars IsShown v) :
    ∃ w, fromFound tag (integral v) = .ok w ∧ same w v = true := by
  cases tag with
  | many kind =>
    obtain ⟨items, rfl, fit⟩ := conforms.resolve_left visible
    obtain ⟨ws, casts, equals⟩ := exists_mapM_castItem_integral fit finite shown
    refine ⟨.list ws, ?_, equals⟩
    have found : fromFound (.many kind) (integral (.list items)) =
        ((integralItems items).mapM (castItem kind)).map .list := rfl
    rw [found, casts, Outcome.map_ok]
  | one kind =>
    -- a query for a single value takes the first item of a list, so the value must be no list;
    -- the kinds other than any value exclude one by themselves
    have noList : ∀ items, v ≠ .list items := by
      rintro items rfl
      cases kind with
      | object => exact single rfl items rfl
      | _ =>
        obtain ⟨_, same⟩ := conforms.resolve_left visible
        cases same
    have alone : (integral v).elements = [integral v] := by
      cases read : integral v with
      | list items =>
        obtain ⟨items', same⟩ := Json.exists_of_integral_eq_list read
        exact absurd same (noList items')
      | _ => rfl
    rw [fromFound_one, alone]
    exact exists_castItem_integral conforms finite shown

/-- A value under a key becomes a document in which the key holds the value, written and read. -/
theorem detach_member {name : String} (formed : AllScalars HasForm v)
    (shown : AllScalars IsShown v) :
    detach (.object [(.text name, v)]) = .ok (.object [(.text name, integral v)]) := by
  have distinct : Fields.AreDistinct [(Key.text name, v)] := List.pairwise_singleton _ _
  have formed : AllScalars HasForm (.object [(.text name, v)]) :=
    ⟨distinct, ⟨name, rfl⟩, formed, trivial⟩
  have shown : AllScalars IsShown (.object [(.text name, v)]) :=
    ⟨distinct, ⟨name, rfl⟩, shown, trivial⟩
  obtain ⟨text, written, read⟩ := Json.exists_write_read .spaced formed shown
  rw [detach, written, Outcome.ok_bind, read]
  rfl

/-- Rebuilding is idempotent. What an expression with a tag builds for a document that was read,
with the standard functions, is built again by a query with that tag for the value under a key: it
is equal as a value, where numbers count by what they stand for. The value must not be null, hold
only finite numbers and have a text, and it must not be a list where a single value of any kind is
asked for, for such a query takes the first item. -/
theorem exists_same_of_rebuild {limit : Int} {word expression text written : String} {tag : Tag}
    {document v : Value} (known : Tag.ofWord? word = some tag)
    (read : Json.read text = .ok document)
    (built : (⟨.standard, limit⟩ : Builder).build (.text (word ++ " " ++ expression)) document =
      .ok v)
    (visible : v ≠ .null) (finite : AllScalars IsFinite v)
    (spelled : Json.write .spaced v = .ok written)
    (single : tag = .one .object → ∀ items, v ≠ .list items) :
    ∃ w, (⟨.standard, limit⟩ : Builder).buildPlain (.text (word ++ " " ++ "$.v"))
        (.object [(.text "v", v)]) = .ok w ∧ same w v = true := by
  have kept : AllScalars IsKept v := isKept_of_build rfl (Json.of_read read).1 built
  have formed : AllScalars HasForm v := Json.allScalars_hasForm_of_isFinite kept finite
  have shown : AllScalars IsShown v :=
    Json.isShown_of_write (Json.allScalars_isOrdinary formed) spelled
  have conforms : Conforms tag v := by
    obtain ⟨compiled, ⟨⟩, evaluated⟩ := Outcome.exists_of_bind_eq_ok built
    obtain ⟨word', body, tag', tokens, split, known', -, conforms, -⟩ :=
      fits_of_evaluateAt rfl evaluated
    rw [splitTag?_word known] at split
    split at split
    · cases split
    · cases split
      rw [String.ofList_toList, known] at known'
      cases known'
      exact conforms
  obtain ⟨w, found, equal⟩ := exists_fromFound_integral conforms visible single finite shown
  refine ⟨w, ?_, equal⟩
  have split : splitTag? (word ++ " " ++ "$.v").toList = some (word.toList, "$.v".toList) := by
    rw [splitTag?_word known]
    rfl
  have known : Tag.ofWord? (String.ofList word.toList) = some tag := by
    rw [String.ofList_toList, known]
  have tokenized : Expression.tokenize (String.ofList "$.v".toList) = .ok [.path "$.v"] := by rfl
  have selects : Path.read (.object [(.text "v", integral v)]) "$.v" = .ok (integral v) := by rfl
  rw [buildPlain, detach_member formed shown, Outcome.ok_bind,
    build_path (levels_ne_zero_of_build built) split known tokenized, fromPath_eq, selects,
    Outcome.ok_bind, found]

/-- A number that is written with an exponent is rebuilt from the integer of its value. -/
theorem exists_same_of_rebuild_hundred :
    let v : Value := .decimal (.finite false 1 2)
    Json.read "1e2" = .ok v ∧ ({} : Builder).build (.text ("num" ++ " " ++ "$")) v = .ok v ∧
    ∃ w, ({} : Builder).buildPlain (.text ("num" ++ " " ++ "$.v")) (.object [(.text "v", v)]) =
      .ok w ∧ same w v = true := by
  intro v
  have known : Tag.ofWord? "num" = some (.one .number) := (Tag.ofWord?_words (.one .number)).1
  have read : Json.read "1e2" = .ok v := by rfl
  have built : ({} : Builder).build (.text ("num" ++ " " ++ "$")) v = .ok v := by rfl
  have finite : AllScalars IsFinite v := by exact rfl
  have short : Number.isLong 100 = false := Number.isLong_eq_false (by decide +kernel)
  have shown : AllScalars IsShown v := short
  obtain ⟨written, spelled⟩ := Json.exists_write .spaced (v := v) trivial shown
  exact ⟨read, built,
    exists_same_of_rebuild known read built nofun finite spelled fun any => nomatch any⟩

end Builder

end Stencil
