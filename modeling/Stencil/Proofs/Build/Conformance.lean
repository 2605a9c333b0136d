import Stencil.Build
import Stencil.Proofs.Cast
import Stencil.Proofs.Function.Result

/-!
# Types of scalar results

What an expression builds is of the type that its tag names, on each of the three ways to a value:
a path query, whose values are cast; a literal, which is cast or spliced; and a call, in which the
outermost function is asked for the type. Null comes from queries and from functions of no items,
or stands for itself as a literal of any value.
-/

namespace Stencil.Builder

open Expression (Token)

section

variable {b : Builder} {levels : Nat} {evaluate : Nat → Evaluator} {evaluator : Evaluator}
variable {tag : Tag} {document v : Value}

/-- The function of the outermost open call. -/
def outermost (function : Function) : List Frame → Function
  | [] => function
  | parent :: outer => outermost parent.function outer

/-- The value of tokens is what the function of the outermost open call gives for the tag. -/
theorem exists_invoke_of_runTokens {tokens rest : List Token} {frame : Frame} {outer : List Frame}
    (h : runTokens b levels evaluate tag document tokens frame outer = .ok (v, rest)) :
    ∃ arguments, (outermost frame.function outer).invoke (some tag) arguments = .ok v := by
  -- Pushing a value keeps the function of a call, and entering a call puts it inside of the others.
  induction tokens generalizing frame outer with
  | nil => cases h
  | cons token remaining ih =>
    cases token with
    | path path =>
      obtain ⟨value, -, h⟩ := Outcome.exists_of_bind_eq_ok h
      have invoked := ih h
      exact invoked
    | raw raw =>
      obtain ⟨value, -, h⟩ := Outcome.exists_of_bind_eq_ok h
      have invoked := ih h
      exact invoked
    | call name =>
      rw [runTokens] at h
      split at h
      · cases h
      · obtain ⟨function, -, h⟩ := Outcome.exists_of_bind_eq_ok h
        have invoked := ih h
        exact invoked
    | close =>
      cases outer with
      | nil =>
        obtain ⟨value, found, h⟩ := Outcome.exists_of_bind_eq_ok h
        cases h
        exact ⟨_, found⟩
      | cons parent outer =>
        obtain ⟨value, -, h⟩ := Outcome.exists_of_bind_eq_ok h
        have invoked := ih h
        exact invoked

/-- The value of a call is what its function gives for the tag. -/
theorem exists_invoke_of_runCall {name : String} {tokens rest : List Token}
    (h : runCall b levels evaluate tag document name tokens = .ok (v, rest)) :
    ∃ f arguments, b.functions.get name = .ok f ∧ f.invoke (some tag) arguments = .ok v := by
  unfold runCall at h
  split at h
  · cases h
  · obtain ⟨f, known, h⟩ := Outcome.exists_of_bind_eq_ok h
    obtain ⟨arguments, invoked⟩ := exists_invoke_of_runTokens h
    exact ⟨f, arguments, known, invoked⟩

/-- The value of a path query conforms to the tag. -/
theorem conforms_fromPath {path : String} (h : fromPath tag document path = .ok v) :
    Conforms tag v := by
  obtain ⟨found, -, h⟩ := Outcome.exists_of_bind_eq_ok h
  cases tag with
  | many kind =>
    split at h
    · cases h
      exact .inl rfl
    · exact .inr (exists_of_castList h)
  | one kind =>
    split at h
    · cases h
      exact .inl rfl
    · dsimp only at h
      split at h
      · cases h
        exact .inl rfl
      · cases h
        exact .inl rfl
      · exact .inr (isOfKind_cast h)
      · exact .inr (isOfKind_cast h)

/-- The value of a literal conforms to the tag, and is null only where any value will do. -/
theorem conforms_fromLiteral {raw : String}
    (h : fromLiteral evaluator tag document raw = .ok v) :
    Conforms tag v ∧ (v = .null → tag = .one .object) := by
  cases tag with
  | many kind =>
    obtain ⟨literal, -, h⟩ := Outcome.exists_of_bind_eq_ok h
    obtain ⟨items, rfl, all⟩ := exists_of_castList h
    exact ⟨.inr ⟨items, rfl, all⟩, fun null => by cases null⟩
  | one kind =>
    have isOfKind : IsOfKind kind v := by
      cases kind with
      | string =>
        obtain ⟨text, -, rfl⟩ := Outcome.exists_of_map_eq_ok h
        exact ⟨text, rfl⟩
      | object => trivial
      | _ =>
        simp only [fromLiteral] at h
        exact isOfKind_cast h
    refine ⟨.inr isOfKind, ?_⟩
    rintro rfl
    rw [eq_object_of_isOfKind_null isOfKind]

/-- Tokens of an expression that may find nothing: a path query, or a call of a function that gives
null where there are no items. -/
def MayFindNothing : List Token → Prop
  | .path _ :: _ => True
  | .call name :: _ => name ∈ Function.nullable
  | _ => False

/-- What a function yields for a tag conforms to it, and is null only if the function may give
that. -/
theorem conforms_of_yields {f : Function} (h : f.Yields tag v) :
    Conforms tag v ∧ (v = .null → f.name ∈ Function.nullable) := by
  obtain ⟨kind, rfl, proper, isOfKind | ⟨rfl, may⟩⟩ := h
  · refine ⟨.inr isOfKind, ?_⟩
    rintro rfl
    exact absurd (eq_object_of_isOfKind_null isOfKind) proper
  · exact ⟨.inl rfl, fun _ => may⟩

/-- A value of an expression that conforms to the tag of the expression. It is null only if the tag
asks for any value or the body of the expression may find nothing. -/
def Fits (expression : String) (v : Value) : Prop :=
  ∃ word body tag tokens,
    splitTag? expression.toList = some (word, body) ∧
    Tag.ofWord? (String.ofList word) = some tag ∧
    Expression.tokenize (String.ofList body) = .ok tokens ∧
    Conforms tag v ∧
    (v = .null → tag = .one .object ∨ MayFindNothing tokens)

/-- What an expression builds with the standard functions fits it. -/
theorem fits_of_scalarValue (standard : b.functions = .standard) {expression : String}
    (h : scalarValue b levels evaluate expression document = .ok v) : Fits expression v := by
  unfold scalarValue at h
  split at h
  · cases h
  · next word body split =>
    split at h
    · cases h
    · next tag known =>
      -- one case for each way to a value
      split at h
      · cases h
      · next path rest tokenized =>
        exact ⟨word, body, tag, _, split, known, tokenized, conforms_fromPath h,
          fun _ => .inr trivial⟩
      · next name rest tokenized =>
        obtain ⟨⟨value, left⟩, run, rfl⟩ := Outcome.exists_of_map_eq_ok h
        obtain ⟨f, arguments, found, invoked⟩ := exists_invoke_of_runCall run
        rw [standard] at found
        obtain ⟨yields, rfl⟩ := Registry.yields_of_get_standard found invoked
        obtain ⟨conforms, null⟩ := conforms_of_yields yields
        exact ⟨word, body, tag, _, split, known, tokenized, conforms, fun h => .inr (null h)⟩
      · next tokens _ _ tokenized =>
        obtain ⟨conforms, null⟩ := conforms_fromLiteral h
        exact ⟨word, body, tag, tokens, split, known, tokenized, conforms, fun h => .inl (null h)⟩

/-- What an expression evaluates to with the standard functions fits it, at whatever level. -/
theorem fits_of_evaluateAt (standard : b.functions = .standard) {skip : Nat} {expression : String}
    (h : evaluateAt b levels skip (.scalar expression) document = .ok v) : Fits expression v := by
  rw [evaluateAt_skip] at h
  cases below : levels - skip with
  | zero =>
    rw [below] at h
    cases h
  | succ levels =>
    rw [below] at h
    exact fits_of_scalarValue standard h

end

/-- Building an expression is sound: whatever the document and the limit of levels, a value that
the standard functions help to build is of the type that the tag of the expression names, or null;
a list is one of items that are null or of the kind of the tag. Unless the tag asks for any value,
null comes only from a path query or from a call of the least item, the greatest item or the
mean. -/
theorem conforms_of_build {limit : Int} {expression : String} {document v : Value}
    (built : (⟨.standard, limit⟩ : Builder).build (.text expression) document = .ok v) :
    ∃ word body tag tokens,
      splitTag? expression.toList = some (word, body) ∧
      Tag.ofWord? (String.ofList word) = some tag ∧
      Expression.tokenize (String.ofList body) = .ok tokens ∧
      Conforms tag v ∧
      (v = .null → tag ≠ .one .object →
        (∃ path rest, tokens = .path path :: rest) ∨
        ∃ name rest, tokens = .call name :: rest ∧ name ∈ ["min", "max", "average"]) := by
  have fits : Fits expression v := fits_of_evaluateAt rfl built
  obtain ⟨word, body, tag, tokens, split, known, tokenized, conforms, null⟩ := fits
  refine ⟨word, body, tag, tokens, split, known, tokenized, conforms, fun isNull other => ?_⟩
  rcases null isNull with any | may
  · exact absurd any other
  · cases tokens with
    | nil => exact may.elim
    | cons token rest =>
      cases token with
      | path path => exact .inl ⟨path, rest, rfl⟩
      | call name => exact .inr ⟨name, rest, rfl, may⟩
      | _ => exact may.elim

/-- A query for integers: texts of the document are cast and null items are kept. -/
theorem conforms_of_build_integers :
    (⟨.standard, 100⟩ : Builder).build (.text "int[] $.a")
      (.object [(.text "a", .list [.int 1, .text " 2 ", .null])]) =
        .ok (.list [.int 1, .int 2, .null]) ∧
    Conforms (.many .integer) (.list [.int 1, .int 2, .null]) := by
  have built : (⟨.standard, 100⟩ : Builder).build (.text "int[] $.a")
      (.object [(.text "a", .list [.int 1, .text " 2 ", .null])]) =
        .ok (.list [.int 1, .int 2, .null]) := by rfl
  obtain ⟨word, body, tag, tokens, split, known, -, conforms, -⟩ := conforms_of_build built
  refine ⟨built, ?_⟩
  have head : splitTag? "int[] $.a".toList = some ("int[]".toList, "$.a".toList) := by rfl
  rw [head] at split
  cases split
  have named : Tag.ofWord? (String.ofList "int[]".toList) = some (.many .integer) := by rfl
  rw [named] at known
  cases known
  exact conforms

end Stencil.Builder
