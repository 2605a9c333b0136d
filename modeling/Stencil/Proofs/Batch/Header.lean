import Stencil.Batch.Message
import Stencil.Proofs.Json.Literal

/-!
# The texts of headers

Headers come from plain data, as an incoming request or the settings give them, and from what a
schema built. Each part of a header becomes a text: each item if it is a list, else the whole. Plain
data is shown by its plain text, a built value by the text that it has inside of built strings. The
two are the same for integers, decimal numbers and texts. They never are for null and truth values,
and for lists and objects only if the literal is the compact JSON text.
-/

namespace Stencil.Headers

/-- What becomes the texts of a header. -/
def partsOf : Value → List Value
  | .list items => items
  | v => [v]

/-- A value that becomes the same text in plain data as in what a schema built. -/
def IsSpelledAlike : Value → Prop
  | .decimal _ => True
  | .text _ => True
  | v => Json.HasJsonLiteral v

/-- The texts of a header are those of its parts. -/
theorem textsOf_eq (text : Value → Outcome String) (v : Value) :
    textsOf text v = (partsOf v).mapM text := by
  have single (v : Value) : (text v).map (fun s => [s]) = [v].mapM text := by
    rw [List.mapM_cons]
    cases text v <;> rfl
  cases v with
  | list items => rfl
  | _ => exact single _

/-- The parts of a header are of the kinds that JSON has a form for if the header is. -/
theorem isJson_of_mem_partsOf {v part : Value} (isJson : Json.IsJson v)
    (among : part ∈ partsOf v) : Json.IsJson part := by
  cases v with
  | list items => exact Json.areJson_iff.mp isJson part among
  | _ =>
    rw [List.mem_singleton.mp among]
    exact isJson

section Spelling

variable {v : Value} (isJson : Json.IsJson v) (written : v.toText = Json.write .compact v)
  (plain : v.plain = v.literal)

include isJson written plain

/-- A value that is shown by its literal and built as its JSON text has one text in both ways
exactly if it can be written and the two are the same. -/
theorem exists_literal_iff :
    (∃ s, plainText v = .ok s ∧ v.toText = .ok s) ↔
      v.holdsLong = false ∧ Json.HasJsonLiteral v := by
  rw [← Json.writeChars_eq_literalChars_iff v isJson]
  constructor
  · rintro ⟨s, shown, built⟩
    rw [plainText] at shown
    split at shown
    · cases shown
    · cases shown
      rw [written] at built
      obtain ⟨cs, spelled, same⟩ := Outcome.exists_of_map_eq_ok built
      rw [plain, Value.literal] at same
      rw [spelled, String.ofList_injective same]
  · intro spelled
    have short := ((Json.writeChars_eq_literalChars_iff v isJson).mp spelled).1
    refine ⟨v.plain, ?_, ?_⟩
    · rw [plainText, short]
      rfl
    · rw [written, Json.write, spelled, plain]
      rfl

/-- If the two are the same it is shown in both ways or breaks both down. -/
theorem plainText_eq_of_hasJsonLiteral (literal : Json.HasJsonLiteral v) :
    plainText v = v.toText := by
  cases long : v.holdsLong with
  | false =>
    obtain ⟨s, shown, built⟩ := (exists_literal_iff isJson written plain).mpr ⟨long, literal⟩
    rw [shown, built]
  | true =>
    rw [plainText, if_pos long, written, Json.write, Json.writeChars_of_holdsLong v literal long]
    rfl

end Spelling

/-- A value that is neither a decimal number nor a text is shown by its literal and built as its
compact JSON text. -/
theorem toText_eq_write {v : Value} (isJson : Json.IsJson v) :
    (∃ d, v = .decimal d) ∨ (∃ s, v = .text s) ∨
      v.toText = Json.write .compact v ∧ v.plain = v.literal ∧
        IsSpelledAlike v = Json.HasJsonLiteral v := by
  cases v with
  | null => exact .inr (.inr ⟨rfl, rfl, rfl⟩)
  | bool b => cases b <;> exact .inr (.inr ⟨rfl, rfl, rfl⟩)
  | int n => exact .inr (.inr ⟨rfl, rfl, rfl⟩)
  | decimal d => exact .inl ⟨d, rfl⟩
  | text s => exact .inr (.inl ⟨s, rfl⟩)
  | list items => exact .inr (.inr ⟨rfl, rfl, rfl⟩)
  | object members => exact .inr (.inr ⟨rfl, rfl, rfl⟩)
  | _ => cases isJson

/-- A value that is spelled alike has the same text in both ways or breaks both down. -/
theorem plainText_eq_toText {v : Value} (isJson : Json.IsJson v) (alike : IsSpelledAlike v) :
    plainText v = v.toText := by
  rcases toText_eq_write isJson with ⟨d, rfl⟩ | ⟨s, rfl⟩ | ⟨written, plain, same⟩
  · rfl
  · rfl
  · exact plainText_eq_of_hasJsonLiteral isJson written plain (same ▸ alike)

/-- A value has the same text in both ways exactly if it holds no integer that is too long and is
spelled alike. -/
theorem exists_plainText_iff {v : Value} (isJson : Json.IsJson v) :
    (∃ s, plainText v = .ok s ∧ v.toText = .ok s) ↔ v.holdsLong = false ∧ IsSpelledAlike v := by
  rcases toText_eq_write isJson with ⟨d, rfl⟩ | ⟨s, rfl⟩ | ⟨written, plain, same⟩
  · exact ⟨fun _ => ⟨rfl, trivial⟩, fun _ => ⟨d.text, rfl, rfl⟩⟩
  · exact ⟨fun _ => ⟨rfl, trivial⟩, fun _ => ⟨s, rfl, rfl⟩⟩
  · rw [same]
    exact exists_literal_iff isJson written plain

/-- The headers of plain data and those that a schema built are the same exactly if no part of a
header holds an integer that is too long and every part is spelled alike. Where every part is, such
an integer breaks both down. -/
theorem normalize_eq_ofBuilt_iff {members : List (Key × Value)}
    (isJson : Json.IsJson (.object members)) :
    ((∃ headers, normalize (.object members) = .ok headers ∧
        ofBuilt (.object members) = .ok headers) ↔
      ∀ member ∈ members, ∀ part ∈ partsOf member.2,
        part.holdsLong = false ∧ IsSpelledAlike part) ∧
    ((∀ member ∈ members, ∀ part ∈ partsOf member.2, IsSpelledAlike part) →
      normalize (.object members) = ofBuilt (.object members)) := by
  have parts {member : Key × Value} (among : member ∈ members) {part : Value}
      (inside : part ∈ partsOf member.2) : Json.IsJson part :=
    isJson_of_mem_partsOf (Json.holdJson_iff.mp isJson.2 member among).2 inside
  constructor
  · rw [normalize, ofBuilt, ofMembers, ofMembers, Outcome.exists_mapM_eq_ok_iff]
    refine forall₂_congr fun member among => ?_
    have texts : (∃ texts, textsOf plainText member.2 = .ok texts ∧
          textsOf Value.toText member.2 = .ok texts) ↔
        ∀ part ∈ partsOf member.2, part.holdsLong = false ∧ IsSpelledAlike part := by
      rw [textsOf_eq, textsOf_eq, Outcome.exists_mapM_eq_ok_iff]
      exact forall₂_congr fun part inside => exists_plainText_iff (parts among inside)
    rw [← texts]
    constructor
    · rintro ⟨header, one, other⟩
      obtain ⟨first, shown, one⟩ := Outcome.exists_of_bind_eq_ok one
      obtain ⟨second, built, other⟩ := Outcome.exists_of_bind_eq_ok other
      cases one
      cases other
      exact ⟨first, shown, built⟩
    · rintro ⟨texts, shown, built⟩
      refine ⟨(member.1, texts), ?_, ?_⟩
      · dsimp only
        rw [shown]
        rfl
      · dsimp only
        rw [built]
        rfl
  · intro alike
    refine Outcome.mapM_congr fun member among => ?_
    have same : textsOf plainText member.2 = textsOf Value.toText member.2 := by
      rw [textsOf_eq, textsOf_eq]
      exact Outcome.mapM_congr fun part inside =>
        plainText_eq_toText (parts among inside) (alike member among part inside)
    dsimp only
    rw [same]

/-- Headers of numbers, a text, and a list with an apostrophe in it. -/
theorem normalize_eq_ofBuilt_numbers :
    let members : List (Key × Value) := [(.text "Accept", .text "text/plain"),
      (.text "X-Ids", .list [.int 7, .decimal (.finite false 25 (-1))]),
      (.text "X-Nest", .list [.list [.text "it's"], .object []])]
    Json.IsJson (.object members) ∧
      ∃ headers, normalize (.object members) = .ok headers ∧
        ofBuilt (.object members) = .ok headers := by
  intro members
  have admitted : (Decimal.finite false 25 (-1)).IsAdmitted := ⟨by decide, by decide⟩
  have short : Number.isLong 7 = false := Number.isLong_eq_false (by decide +kernel)
  have quoted : Json.IsQuotedAlike "it's" := by
    have ascii : ("it's".toList.all fun c => decide (32 ≤ c.toNat ∧ c.toNat < 127)) = true := by
      decide
    refine ⟨by decide, fun c among => .inr (.inr (.inr (.inl ?_)))⟩
    exact of_decide_eq_true (List.all_eq_true.mp ascii c among)
  have isJson : Json.IsJson (.object members) := by
    refine ⟨by simp [members, Fields.AreDistinct, Key.same_text], ?_⟩
    exact ⟨⟨_, rfl⟩, trivial, ⟨_, rfl⟩, ⟨trivial, admitted, trivial⟩, ⟨_, rfl⟩,
      ⟨⟨trivial, trivial⟩, ⟨List.Pairwise.nil, trivial⟩, trivial⟩, trivial⟩
  refine ⟨isJson, (normalize_eq_ofBuilt_iff isJson).1.mpr ?_⟩
  have nested : Json.HasJsonLiteral (.list [.text "it's"]) := ⟨Nat.le_refl 1, quoted, trivial⟩
  intro member among part inside
  simp only [members, List.mem_cons, List.not_mem_nil, or_false] at among
  rcases among with rfl | rfl | rfl
  · rw [List.mem_singleton.mp inside]
    exact ⟨rfl, trivial⟩
  · simp only [partsOf, List.mem_cons, List.not_mem_nil, or_false] at inside
    rcases inside with rfl | rfl
    · exact ⟨short, trivial⟩
    · exact ⟨rfl, trivial⟩
  · simp only [partsOf, List.mem_cons, List.not_mem_nil, or_false] at inside
    rcases inside with rfl | rfl
    · exact ⟨rfl, nested⟩
    · exact ⟨rfl, rfl⟩

/-- A truth value has another word in plain data than in what a schema built. -/
theorem normalize_ne_ofBuilt :
    let members : List (Key × Value) := [(.text "X-Flag", .bool true)]
    normalize (.object members) = .ok [(.text "X-Flag", ["True"])] ∧
      ofBuilt (.object members) = .ok [(.text "X-Flag", ["true"])] ∧
      ¬∃ headers, normalize (.object members) = .ok headers ∧
        ofBuilt (.object members) = .ok headers := by
  have shown : normalize (.object [(.text "X-Flag", .bool true)]) =
      .ok [(.text "X-Flag", ["True"])] := by rfl
  have built : ofBuilt (.object [(.text "X-Flag", .bool true)]) =
      .ok [(.text "X-Flag", ["true"])] := by rfl
  intro members
  refine ⟨shown, built, ?_⟩
  rintro ⟨headers, one, other⟩
  have same : [(Key.text "X-Flag", ["True"])] = [(Key.text "X-Flag", ["true"])] :=
    (Except.ok.inj (shown.symm.trans one)).trans (Except.ok.inj (other.symm.trans built))
  simp at same

end Stencil.Headers
