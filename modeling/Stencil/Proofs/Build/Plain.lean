import Stencil.Build
import Stencil.Proofs.Json.Writable

/-!
# Building from plain values

A plain value becomes a document by being written and read again. A value that was read from a text
comes back with integers in place of its decimal numbers without a fraction, and is the same
document otherwise, so building from it gives what building from that document gives. What is
written as text tells the two documents apart.
-/

namespace Stencil

open Json (integral integralItems integralMembers)
open Value (AllScalars AllItems AllMembers)

namespace Json

/-- A scalar that is no decimal number without a fraction. -/
def HasFraction : Value → Prop
  | .decimal (.finite _ _ exponent) => exponent < 0
  | .pair .. => False
  | _ => True

mutual

/-- Without decimal numbers of this kind a value has nothing to change. -/
theorem integral_eq_self (v : Value) (all : AllScalars HasFraction v) : integral v = v := by
  cases v with
  | decimal d =>
    cases d with
    | finite negative coefficient exponent =>
      have fraction : ¬0 ≤ exponent := Int.not_le.mpr all
      rw [integral, integralDecimal, if_neg fraction]
    | _ => rfl
  | list items => rw [integral, integralItems_eq_self items all]
  | object members => rw [integral, integralMembers_eq_self members all.2]
  | pair => cases all
  | _ => rfl
  termination_by structural v

/-- The same of items. -/
theorem integralItems_eq_self (items : List Value) (all : AllItems HasFraction items) :
    integralItems items = items := by
  cases items with
  | nil => rfl
  | cons item rest =>
    rw [integralItems, integral_eq_self item all.1, integralItems_eq_self rest all.2]
  termination_by structural items

/-- The same of members. -/
theorem integralMembers_eq_self (members : List (Key × Value))
    (all : AllMembers HasFraction members) : integralMembers members = members := by
  cases members with
  | nil => rfl
  | cons member rest =>
    obtain ⟨key, item⟩ := member
    rw [integralMembers, integral_eq_self item all.2.1, integralMembers_eq_self rest all.2.2]
  termination_by structural members

end

end Json

namespace Builder

/-- A value that was read becomes a document again if it can be written. -/
theorem detach_of_read {text written : String} {v : Value} (h : Json.read text = .ok v)
    (spelled : Json.write .spaced v = .ok written) : detach v = .ok (integral v) := by
  have formed := (Json.of_read h).1
  rw [detach, spelled, Outcome.ok_bind, Json.read_write_of_hasForm formed spelled]

/-- A value that was read can be written if it has no decimal number without a fraction. -/
theorem exists_write_of_read {text : String} {v : Value} (h : Json.read text = .ok v)
    (all : AllScalars Json.HasFraction v) : ∃ written, Json.write .spaced v = .ok written := by
  obtain ⟨formed, short⟩ := Json.of_read h
  rw [← Json.integral_eq_self v all] at short
  have shown := (Json.allScalars_isShown_iff v formed).mpr short
  exact Json.exists_write .spaced (Json.allScalars_isOrdinary formed) shown

/-- Building from a value that was read and can be written is building from the document with
integers in place of its decimal numbers without a fraction. Without decimal numbers of this kind it
is building from the document that the text itself is read as. -/
theorem buildPlain_of_read {text : String} {v : Value} (h : Json.read text = .ok v) :
    ((∃ written, Json.write .spaced v = .ok written) →
      ∀ (b : Builder) (schema : Value), b.buildPlain schema v = b.build schema (integral v)) ∧
    (AllScalars Json.HasFraction v →
      ∀ (b : Builder) (schema : Value), b.buildPlain schema v = b.build schema v) := by
  have fromDocument (written : ∃ written, Json.write .spaced v = .ok written) (b : Builder)
      (schema : Value) : b.buildPlain schema v = b.build schema (integral v) := by
    obtain ⟨written, spelled⟩ := written
    rw [buildPlain, detach_of_read h spelled, Outcome.ok_bind]
  refine ⟨fromDocument, fun all b schema => ?_⟩
  rw [fromDocument (exists_write_of_read h all), Json.integral_eq_self v all]

/-- A decimal number with a fraction is the same from a plain value and from a document. -/
theorem buildPlain_of_read_fraction :
    let v : Value := .object [(.text "a", .decimal (.finite false 150 (-2)))]
    Json.read "\x7b\"a\": 1.50\x7d" = .ok v ∧
    ({} : Builder).buildPlain (.text "str $.a") v = .ok (.text "1.50") := by
  intro v
  have formed : AllScalars Json.HasForm v :=
    ⟨List.pairwise_singleton _ _, ⟨_, rfl⟩, ⟨by decide, by decide⟩, trivial⟩
  have fraction : AllScalars Json.HasFraction v :=
    ⟨List.pairwise_singleton _ _, ⟨_, rfl⟩, (by decide : (-2 : Int) < 0), trivial⟩
  have written : Json.write .spaced v = .ok "\x7b\"a\": 1.50\x7d" := rfl
  have read : Json.read "\x7b\"a\": 1.50\x7d" = .ok v :=
    Json.read_write_of_hasForm formed written
  have built : ({} : Builder).build (.text "str $.a") v = .ok (.text "1.50") := rfl
  exact ⟨read, ((buildPlain_of_read read).2 fraction {} (.text "str $.a")).trans built⟩

/-- A decimal number without a fraction is another text from a plain value than from a document. -/
theorem buildPlain_ne_build_whole :
    let v : Value := .decimal (.finite false 1 2)
    Json.read "1e2" = .ok v ∧
    ({} : Builder).build (.text "str $") v = .ok (.text "1E+2") ∧
    ({} : Builder).buildPlain (.text "str $") v = .ok (.text "100") := by
  intro v
  have read : Json.read "1e2" = .ok v := rfl
  have built : ({} : Builder).build (.text "str $") v = .ok (.text "1E+2") := rfl
  have short : Number.isLong 100 = false := Number.isLong_eq_false (by decide +kernel)
  have whole : integral v = .int 100 := rfl
  have shown : AllScalars Json.IsShown v := short
  obtain ⟨written, spelled⟩ := Json.exists_write .spaced (v := v) trivial shown
  have found : Path.read (.int 100) "$" = .ok (.int 100) := rfl
  have text : (Value.int 100).toText = .ok "100" := by
    rw [Value.toText, Json.intChars_of_short short]
    rfl
  refine ⟨read, built, ?_⟩
  have queries (document : Value) : ({} : Builder).build (.text "str $") document =
    fromPath (.one .string) document "$" := rfl
  rw [buildPlain, detach_of_read read spelled, Outcome.ok_bind, whole, queries, fromPath, found]
  simp only [Outcome.ok_bind, cast, text, Outcome.map_ok]

end Builder

end Stencil
