import Stencil.Cast
import Stencil.Proofs.Build.Splice
import Stencil.Proofs.Decimal.Text
import Stencil.Proofs.Number.Integer

/-!
# Scalars in texts

A number or truth value that became part of a text is read from it again: the text of an integer is
cast to the integer, that of a finite decimal number to the number with its sign, its digits and its
exponent, and that of a truth value to the truth value. Only integers that are too long to be
written have no text.
-/

namespace Stencil

open Expression (IsBody openMark weave)

/-- A scalar that is read from its own text as a value of a kind. -/
inductive IsReadAs : Kind → Value → Prop where
  /-- An integer. -/
  | integer (n : Int) : IsReadAs .integer (.int n)
  /-- A finite decimal number with exponents that a text may have. -/
  | number {d : Decimal} (admitted : d.IsAdmitted) : IsReadAs .number (.decimal d)
  /-- A truth value. -/
  | boolean (b : Bool) : IsReadAs .boolean (.bool b)

/-- The text of a short integer is cast to the integer. -/
theorem castInteger_intText {n : Int} (short : Number.isLong n = false) :
    castInteger (.text (String.ofList (Number.intText n))) = .ok (.int n) := by
  have trimmed : Text.trim (Number.intText n) = Number.intText n :=
    Text.trim_of_no_blank fun c among => (Number.isMark_of_mem_intText among).plain.1
  rw [castInteger]
  simp only [String.toList_ofList, trimmed, Number.readInteger?_intText short]

/-- The text of an admitted number is cast to the number. -/
theorem castNumber_text {d : Decimal} (admitted : d.IsAdmitted) :
    castNumber (.text d.text) = .ok (.decimal d) := by
  have trimmed : Text.trim d.chars = d.chars := by
    cases d with
    | finite =>
      exact Text.trim_of_no_blank fun c among => (Decimal.isMark_of_mem_chars among).plain.1
    | _ => cases admitted
  rw [castNumber]
  simp only [Decimal.text, String.toList_ofList, trimmed, Decimal.read?_chars admitted]

/-- The text of a truth value is cast to the truth value. -/
theorem castBoolean_text (b : Bool) :
    castBoolean (.text (if b then "true" else "false")) = .ok (.bool b) := by
  cases b <;> rfl

/-- An integer has a text unless it is too long. -/
theorem toText_int (n : Int) : (Value.int n).toText =
    if Number.isLong n then Outcome.defect .value
    else .ok (String.ofList (Number.intText n)) := by
  rw [Value.toText, Json.intChars]
  split <;> rfl

/-- A scalar with a text is cast from it to itself. -/
theorem cast_of_toText {kind : Kind} {v : Value} {s : String} (scalar : IsReadAs kind v)
    (shown : v.toText = .ok s) : cast (.text s) kind = .ok v := by
  cases scalar with
  | integer n =>
    rw [toText_int] at shown
    split at shown
    · cases shown
    · next short =>
      cases shown
      rw [cast]
      exact castInteger_intText (Bool.eq_false_iff.mpr short)
  | number admitted =>
    rw [Value.toText] at shown
    cases shown
    rw [cast]
    exact castNumber_text admitted
  | boolean b =>
    rw [Value.toText] at shown
    cases shown
    rw [cast]
    exact castBoolean_text b

/-- Every scalar has a text but an integer that is too long. -/
theorem exists_toText_iff {kind : Kind} {v : Value} (scalar : IsReadAs kind v) :
    (∃ s, v.toText = .ok s) ↔ ∀ n, v = .int n → Number.isLong n = false := by
  cases scalar with
  | integer n =>
    rw [toText_int]
    constructor
    · rintro ⟨s, shown⟩ m ⟨⟩
      split at shown
      · cases shown
      · next short => exact Bool.eq_false_iff.mpr short
    · intro short
      rw [short n rfl]
      exact ⟨_, rfl⟩
  | number admitted => exact ⟨fun _ => nofun, fun _ => ⟨_, rfl⟩⟩
  | boolean b => exact ⟨fun _ => nofun, fun _ => ⟨_, rfl⟩⟩

/-- The text of a single span is the text of its value. -/
theorem interpolate_span {evaluate : Builder.Evaluator} {document v : Value} {body : List Char}
    {s : String} (isBody : IsBody body)
    (value : evaluate (.scalar (String.ofList body)) document = .ok v)
    (shown : v.toText = .ok s) :
    Builder.interpolate evaluate document (String.ofList (weave [] [(body, [])])) = .ok s := by
  have clean : ∀ span ∈ [(body, ([] : List Char))], IsBody span.1 ∧ ¬openMark <:+: span.2 :=
    List.forall_mem_singleton.mpr ⟨isBody, (by decide : ¬openMark <:+: [])⟩
  have text : Builder.spanText evaluate document body = .ok s := by
    rw [Builder.spanText, value, Outcome.ok_bind, shown]
  rw [Builder.interpolate_eq, String.toList_ofList, Expression.pieces_weave (by decide) clean,
    Builder.piecesText_wovenPieces, List.mapM_cons, text]
  simp [Builder.spliced, pure, Except.pure]

/-- The text of a scalar is cast back to the scalar, wherever there is a text: every finite decimal
number, with the sign, the digits and the exponent that it has, every truth value, and every
integer that is not too long to be written. So a value that is interpolated into a text of nothing
else, and read from it again, is not altered. -/
theorem cast_toText {kind : Kind} {v : Value} (scalar : IsReadAs kind v) :
    ((∃ s, v.toText = .ok s) ↔ ∀ n, v = .int n → Number.isLong n = false) ∧
    (∀ s, v.toText = .ok s → cast (.text s) kind = .ok v) ∧
    ∀ (evaluate : Builder.Evaluator) (document : Value) (body : List Char), IsBody body →
      evaluate (.scalar (String.ofList body)) document = .ok v → (∃ s, v.toText = .ok s) →
      (do cast (.text (← Builder.interpolate evaluate document
        (String.ofList (weave [] [(body, [])])))) kind) = .ok v := by
  refine ⟨exists_toText_iff scalar, fun s shown => cast_of_toText scalar shown, ?_⟩
  rintro evaluate document body isBody value ⟨s, shown⟩
  rw [interpolate_span isBody value shown, Outcome.ok_bind, cast_of_toText scalar shown]

/-- A negative zero keeps its sign and its place after the point. -/
theorem cast_toText_zero :
    let d : Decimal := .finite true 0 (-7)
    IsReadAs .number (.decimal d) ∧ (Value.decimal d).toText = .ok "-0E-7" ∧
    cast (.text "-0E-7") .number = .ok (.decimal d) ∧
    (do cast (.text (← Builder.interpolate (fun _ _ => .ok (.decimal d)) .null
      "@\x7bnum $.a\x7d@")) .number) = .ok (.decimal d) := by
  intro d
  have scalar : IsReadAs .number (.decimal d) := .number ⟨by decide, by decide⟩
  have shown : (Value.decimal d).toText = .ok "-0E-7" := by rfl
  have isBody : IsBody "num $.a".toList := ⟨by decide +kernel, by decide +kernel, by decide⟩
  obtain ⟨-, back, through⟩ := cast_toText scalar
  exact ⟨scalar, shown, back _ shown,
    through (fun _ _ => .ok (.decimal d)) .null "num $.a".toList isBody rfl ⟨_, shown⟩⟩

end Stencil
