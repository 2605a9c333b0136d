import Stencil.Proofs.Build.DepthLimit
import Stencil.Proofs.Build.Refusal
import Stencil.Proofs.Decimal.Finite

/-!
# The limit of levels is exact

A schema that nests no deeper than the limit is never refused as too deep, whatever the document. A
schema that nests deeper is refused by every evaluation that goes all the way down: one that would
succeed without the limit and finds an item for every list part.
-/

namespace Stencil.Builder

open Expression (Argument)
open Outcome (exists_of_bind_eq_ok exists_of_map_eq_ok exists_of_mapM_eq_ok)

/-- Evaluating a schema for a document goes through the values that a path selects in the same
document or in one made of an item. -/
inductive Iterates : Schema → Value → String → Value → Prop
  /-- The path of a list part. -/
  | part {schema element : Schema} {document : Value} {path : String} :
    IsPart schema path element → Iterates schema document path document
  /-- A path of a member. -/
  | field {fields : List (String × Schema)} {field : String × Schema}
    {document inner : Value} {path : String} : field ∈ fields →
    Iterates field.2 document path inner → Iterates (.object fields) document path inner
  /-- A path of an element, for an item. -/
  | item {schema element : Schema} {document item own inner : Value} {path innerPath : String}
    {items : List Value} : IsPart schema path element → partItems document path = .ok items →
    item ∈ items → detach item = .ok own → Iterates element own innerPath inner →
    Iterates schema document innerPath inner

/-- Every path that the evaluation of a schema for a document goes through selects an item. -/
def SelectsItems (schema : Schema) (document : Value) : Prop :=
  ∀ path inner, Iterates schema document path inner → partItems inner path ≠ .ok []

/-- An expression goes through no path. -/
theorem selectsItems_scalar (expression : String) (document : Value) :
    SelectsItems (.scalar expression) document := by
  intro path inner iterates
  cases iterates with
  | part isPart => cases isPart
  | item isPart => cases isPart

section Literals

variable {evaluate : Evaluator} {document : Value}

/-- Every span of a text with a value has a value. -/
theorem exists_of_interpolate {text result : String}
    (h : interpolate evaluate document text = .ok result) {body : List Char}
    (among : .span body ∈ Expression.pieces text.toList) :
    ∃ v, evaluate (.scalar (String.ofList body)) document = .ok v := by
  obtain ⟨parts, found, -⟩ := exists_of_bind_eq_ok h
  obtain ⟨chars, spanned⟩ := exists_of_mapM_eq_ok found among
  obtain ⟨v, value, -⟩ := exists_of_bind_eq_ok spanned
  exact ⟨v, value⟩

/-- A text with a span holds an at sign. -/
theorem at_sign_mem_of_span {text body : List Char} (among : .span body ∈ Expression.pieces text) :
    '@' ∈ text := by
  have holds {parts : List Expression.Piece} (among : .span body ∈ parts) :
      '@' ∈ Expression.spell parts := by
    induction parts with
    | nil => cases among
    | cons part rest ih =>
      cases part with
      | char c =>
        have later : .span body ∈ rest := by simpa using among
        exact List.mem_cons_of_mem c (ih later)
      | span inner => simp [Expression.spell, Expression.openMark]
  have spelled := Expression.spell_piecesFrom none text
  have inside := holds among
  rwa [Expression.pieces, spelled, List.nil_append] at inside

/-- A literal argument with a span is a text: it is neither a number nor a truth value. -/
theorem literalArgument_of_span {raw : String} {body : List Char}
    (among : .span body ∈ Expression.pieces raw.toList) :
    literalArgument evaluate document raw =
      (interpolate evaluate document raw).map .text := by
  have mark := at_sign_mem_of_span among
  have noNumber : Decimal.read? raw.toList = none :=
    Decimal.read?_eq_none Number.IsForeign.at_sign mark
  have noInteger : Number.readInteger? raw.toList = none :=
    Number.IsForeign.at_sign.readInteger?_eq_none mark
  have noWord {word : String} (plain : '@' ∉ word.toList) : Text.lower raw ≠ word := by
    rintro rfl
    refine plain ?_
    rw [Text.lower, String.toList_ofList]
    exact List.mem_map.mpr ⟨'@', mark, rfl⟩
  rw [literalArgument]
  simp only [noNumber, noInteger, Option.map_none, ite_self]
  rw [if_neg (noWord (by decide)), if_neg (noWord (by decide))]

end Literals

section Levels

variable {b : Builder}

/-- With this many levels, a schema has a value only if it does not go down as far, unless a list
part has no items. -/
def StaysAbove (b : Builder) (levels : Nat) : Prop :=
  ∀ schema document v, SelectsItems schema document →
    evaluateAt b levels 0 schema document = .ok v → schema.nest < levels

/-- The body of a span that has a value does not go down as far. -/
theorem StaysAbove.span {levels : Nat} (h : StaysAbove b levels) {document v : Value}
    {body : List Char}
    (value : evaluateAt b levels 0 (.scalar (String.ofList body)) document = .ok v) :
    Expression.nest body < levels := by
  have above := h _ document v (selectsItems_scalar _ document) value
  rwa [Schema.nest, String.toList_ofList] at above

/-- The spans of a text that has a value stay above the levels. -/
theorem spansNest_le_of_interpolate {levels : Nat} (below : StaysAbove b levels) {document : Value}
    {text result : String} (h : interpolate (evaluateAt b levels 0) document text = .ok result) :
    Expression.spansNest Expression.nest (Expression.pieces text.toList) ≤ levels := by
  refine Expression.spansNest_le_iff.mpr fun body among => ?_
  obtain ⟨v, value⟩ := exists_of_interpolate h among
  exact below.span value

section Calls

variable {levels : Nat} (below : ∀ fewer ≤ levels, StaysAbove b fewer)

include below

/-- A literal argument that has a value stays above the levels. -/
theorem nest_le_of_literalArgument {document v : Value} {raw : String} {outer : Nat}
    (fits : outer ≤ levels)
    (h : literalArgument (evaluateAt b levels outer) document raw = .ok v) :
    outer + (Argument.raw raw).nest Expression.nest ≤ levels := by
  have inside : Expression.spansNest Expression.nest (Expression.pieces raw.toList) ≤
      levels - outer := by
    refine Expression.spansNest_le_iff.mpr fun body among => ?_
    rw [literalArgument_of_span among, evaluateAt_skip] at h
    obtain ⟨text, found, -⟩ := exists_of_map_eq_ok h
    have whole := spansNest_le_of_interpolate (below _ (Nat.sub_le levels outer)) found
    exact Expression.spansNest_le_iff.mp whole body among
  rw [Argument.nest]
  omega

omit below in
/-- A call that has a value has its own level, and its arguments have values. -/
theorem of_callValue {outer : Nat} {requested : Option Tag} {name : String}
    {values : Outcome (List Value)} {v : Value}
    (h : callValue b levels outer requested name values = .ok v) :
    outer < levels ∧ ∃ vs, values = .ok vs := by
  unfold callValue at h
  split at h
  · cases h
  · next allowed =>
    obtain ⟨function, -, h⟩ := exists_of_bind_eq_ok h
    obtain ⟨vs, found, -⟩ := exists_of_bind_eq_ok h
    exact ⟨Nat.lt_of_not_le allowed, vs, found⟩

end Calls

mutual

/-- An argument that has a value stays above the levels. -/
theorem nest_le_of_argumentValue {levels : Nat} (below : ∀ fewer ≤ levels, StaysAbove b fewer)
    {document v : Value} (argument : Argument) {outer : Nat} (fits : outer ≤ levels)
    (h : argumentValue b levels (evaluateAt b levels) document argument outer = .ok v) :
    outer + argument.nest Expression.nest ≤ levels := by
  cases argument with
  | path path => exact fits
  | raw raw => exact nest_le_of_literalArgument below fits h
  | call name arguments =>
    obtain ⟨allowed, vs, found⟩ := of_callValue h
    have inside := nest_le_of_argumentValues below arguments allowed found
    rw [Argument.nest]
    omega
  termination_by structural argument

/-- The same of several arguments. -/
theorem nest_le_of_argumentValues {levels : Nat} (below : ∀ fewer ≤ levels, StaysAbove b fewer)
    {document : Value} {vs : List Value} (arguments : List Argument) {outer : Nat}
    (fits : outer ≤ levels)
    (h : argumentValues b levels (evaluateAt b levels) document arguments outer = .ok vs) :
    outer + Argument.nestAll Expression.nest arguments ≤ levels := by
  cases arguments with
  | nil => exact fits
  | cons argument rest =>
    obtain ⟨v, found, h⟩ := exists_of_bind_eq_ok h
    obtain ⟨others, more, -⟩ := exists_of_bind_eq_ok h
    have first := nest_le_of_argumentValue below argument fits found
    have later := nest_le_of_argumentValues below rest fits more
    rw [Argument.nestAll]
    omega
  termination_by structural arguments

end

section Steps

variable {levels : Nat} (below : ∀ fewer ≤ levels, StaysAbove b fewer)

include below

/-- An expression that has a value stays above the levels. -/
theorem nest_le_of_scalarValue {expression : String} {document v : Value}
    (h : scalarValue b levels (evaluateAt b levels) expression document = .ok v) :
    Expression.nest expression.toList ≤ levels := by
  unfold scalarValue at h
  split at h
  · cases h
  · next word body split =>
    split at h
    · cases h
    · next tag tagged =>
      rw [Expression.nest_of_tag split tagged]
      split at h
      · cases h
      · next path rest tokens =>
        rw [Expression.bodyNest, tokens]
        exact Nat.zero_le levels
      · next name rest tokens =>
        obtain ⟨arguments, rfl⟩ := Expression.exists_call tokens
        rw [runCall_flattenAll] at h
        obtain ⟨result, found, -⟩ := exists_of_map_eq_ok h
        obtain ⟨w, value, -⟩ := exists_of_map_eq_ok found
        obtain ⟨allowed, vs, found⟩ := of_callValue value
        have inside := nest_le_of_argumentValues below arguments allowed found
        rw [Expression.bodyNest_call tokens, Argument.nest]
        omega
      · next tokens noPath noCall tokenized =>
        by_cases texts : tag = .one .string
        · subst texts
          obtain ⟨text, found, -⟩ := exists_of_map_eq_ok h
          have inside := spansNest_le_of_interpolate (below levels (Nat.le_refl levels)) found
          rwa [String.toList_ofList, ← Expression.bodyNest_literal tokenized noPath noCall]
            at inside
        · rw [Expression.bodyNest, tokenized]
          split
          · next failed => cases failed
          · exact Nat.zero_le levels
          · next name rest same => exact absurd (Except.ok.inj same) (noCall name rest)
          · rw [if_neg texts]
            exact Nat.zero_le levels

/-- The element of a list part that has results stays two levels above. -/
theorem nest_lt_of_partValues {schema element : Schema} {document : Value} {path : String}
    {vs : List Value} (isPart : IsPart schema path element) (selects : SelectsItems schema document)
    (h : partValues (evaluateAt b levels 1) document path element = .ok vs) :
    element.nest + 2 < levels + 1 := by
  obtain ⟨items, found, h⟩ := exists_of_bind_eq_ok h
  have some_item : items ≠ [] := by
    rintro rfl
    exact selects path document (.part isPart) found
  obtain ⟨item, rest, rfl⟩ := List.exists_cons_of_ne_nil some_item
  obtain ⟨v, value⟩ := exists_of_mapM_eq_ok h List.mem_cons_self
  obtain ⟨own, detached, value⟩ := exists_of_bind_eq_ok value
  rw [evaluateAt_skip] at value
  have inside : SelectsItems element own := fun path' inner iterates =>
    selects path' inner (.item isPart found List.mem_cons_self detached iterates)
  have above := below (levels - 1) (Nat.sub_le levels 1) element own v inside value
  omega

/-- A schema whose own level is allowed stays above as the schemas inside of it do. -/
theorem nest_lt_of_step {schema : Schema} {document v : Value}
    (selects : SelectsItems schema document)
    (h : step b levels (evaluateAt b levels) schema document = .ok v) :
    schema.nest < levels + 1 := by
  cases schema with
  | scalar expression => exact Nat.lt_succ_of_le (nest_le_of_scalarValue below h)
  | object fields =>
    obtain ⟨members, found, -⟩ := exists_of_bind_eq_ok h
    refine Schema.innerNest_lt (Nat.succ_pos levels) fun field among => ?_
    obtain ⟨member, value⟩ := exists_of_mapM_eq_ok found among
    obtain ⟨w, value, -⟩ := exists_of_bind_eq_ok value
    have inside : SelectsItems field.2 document := fun path inner iterates =>
      selects path inner (.field among iterates)
    exact Nat.succ_lt_succ (below levels (Nat.le_refl levels) field.2 document w inside value)
  | arrayOf path element =>
    obtain ⟨vs, found, -⟩ := exists_of_map_eq_ok h
    exact nest_lt_of_partValues below .arrayOf selects found
  | list parts =>
    obtain ⟨results, found, -⟩ := exists_of_bind_eq_ok h
    refine Schema.innerNest_lt (Nat.succ_pos levels) fun part among => ?_
    obtain ⟨vs, value⟩ := exists_of_mapM_eq_ok found among
    exact nest_lt_of_partValues below (.list among) selects value
  | unsupported kind => cases h

end Steps

/-- Whatever the number of levels, a schema has a value only if it does not go down as far. -/
theorem staysAbove (b : Builder) (levels : Nat) : StaysAbove b levels := by
  induction levels using Nat.strongRecOn with
  | ind levels ih =>
    cases levels with
    | zero =>
      intro schema document v selects h
      cases h
    | succ levels =>
      exact fun schema document v selects h =>
        nest_lt_of_step (fun fewer le => ih fewer (Nat.lt_succ_of_le le)) selects h

end Levels

section Limits

variable {functions : Registry} {data document : Value}

/-- A schema that nests no deeper than the limit is not refused as too deep. -/
theorem build_ne_tooDeep (apart : functions.IsApart) {limit : Int}
    (fits : Schema.nestOf data ≤ limit) (any : Int) :
    (⟨functions, limit⟩ : Builder).build data document ≠ Outcome.schema (.tooDeep any) := by
  intro refused
  unfold build at refused
  cases compiled : Schema.compile data with
  | error failure =>
    rw [compiled] at refused
    cases refused
    cases Schema.failsOnly_compile data _ compiled with
    | refused problem => cases problem
  | ok schema =>
    rw [compiled, Outcome.ok_bind] at refused
    have same := Schema.nest_of_compile data compiled
    cases refusesOnly apart _ schema document _ refused with
    | apart other => exact other ⟨_, rfl⟩
    | tooDeep deep =>
      rw [same] at deep
      unfold Builder.levels at deep
      dsimp only at deep
      omega

/-- A schema that nests deeper than the limit is refused as too deep if building without the limit
gives a value and every list part has items. -/
theorem build_eq_tooDeep {limit enough : Int} (exceeds : limit < Schema.nestOf data) {v : Value}
    (value : (⟨functions, enough⟩ : Builder).build data document = .ok v)
    (selects : ∀ schema, Schema.compile data = .ok schema → SelectsItems schema document) :
    (⟨functions, limit⟩ : Builder).build data document = Outcome.schema (.tooDeep limit) := by
  obtain ⟨schema, compiled, value⟩ := exists_of_bind_eq_ok value
  have same := Schema.nest_of_compile data compiled
  have built (limit : Int) : (⟨functions, limit⟩ : Builder).build data document =
      (⟨functions, limit⟩ : Builder).evaluate schema document := by
    rw [build, compiled, Outcome.ok_bind]
  have above {limit : Int} {w : Value}
      (h : (⟨functions, limit⟩ : Builder).evaluate schema document = .ok w) :
      Schema.nestOf data ≤ limit := by
    have stays := staysAbove _ _ schema document w (selects schema compiled) h
    rw [same] at stays
    unfold Builder.levels at stays
    dsimp only at stays
    omega
  have more : limit ≤ enough := by
    have := above value
    omega
  have cut : Refuses (⟨functions, limit⟩ : Builder) _ (⟨functions, enough⟩ : Builder).evaluate :=
    evaluate_cutOff rfl more
  rw [built]
  rcases cut schema document with refused | agrees
  · exact refused
  · rw [value] at agrees
    have := above agrees
    omega

/-- The limit of levels looks at the schema only, and it is exact. A schema that nests no deeper
than the limit is never refused as too deep, whatever the document. A schema that nests deeper is
refused with the limit in the message if building it without the limit gives a value and every path
that is gone through selects an item. The functions must not report such a refusal themselves; none
of the standard functions does. -/
theorem build_tooDeep_of_nest (functions : Registry) (apart : functions.IsApart) (limit : Int)
    (data : Value) :
    (Schema.nestOf data ≤ limit → ∀ document any,
      (⟨functions, limit⟩ : Builder).build data document ≠ Outcome.schema (.tooDeep any)) ∧
    (limit < Schema.nestOf data → ∀ document enough v,
      (⟨functions, enough⟩ : Builder).build data document = .ok v →
      (∀ schema, Schema.compile data = .ok schema → SelectsItems schema document) →
      (⟨functions, limit⟩ : Builder).build data document = Outcome.schema (.tooDeep limit)) ∧
    (Error.schema (.tooDeep limit)).message =
      "Schema nesting exceeds maximum depth of " ++ Wording.number limit ∧
    Registry.standard.IsApart :=
  ⟨fun fits _ any => build_ne_tooDeep apart fits any,
    fun exceeds _ _ _ value selects => build_eq_tooDeep exceeds value selects,
    message_tooDeep limit, Registry.isApart_standard⟩

/-- A member of a list part lies three levels down: the limit of two refuses it for a document with
an item, and the limit of three never does. -/
theorem build_tooDeep_of_nest_part :
    let data : Value := .list [.object [(.text Schema.pathKey, .text "$.a"),
      (.text "b", .text "str $.b")]]
    let item : Value := .object [(.text "b", .text "x")]
    let document : Value := .object [(.text "a", .list [item])]
    Registry.standard.IsApart ∧ Schema.nestOf data = 3 ∧
    (⟨.standard, 3⟩ : Builder).build data document = .ok (.list [item]) ∧
    (∀ schema, Schema.compile data = .ok schema → SelectsItems schema document) ∧
    (⟨.standard, 2⟩ : Builder).build data document = Outcome.schema (.tooDeep 2) ∧
    ∀ other any, (⟨.standard, 3⟩ : Builder).build data other ≠ Outcome.schema (.tooDeep any) := by
  intro data item document
  have apart := Registry.isApart_standard
  have nest : Schema.nestOf data = 3 := by
    have leaf : Expression.nest "str $.b".toList = 0 := by
      have split : splitTag? "str $.b".toList = some ("str".toList, "$.b".toList) := by rfl
      have tagged : Tag.ofWord? (String.ofList "str".toList) = some (.one .string) := by rfl
      rw [Expression.nest_of_tag split tagged]
      rfl
    have other : Schema.isPathKey (.text "b") = false := by rfl
    have reserved : Schema.isPathKey (.text Schema.pathKey) = true := by rfl
    simp only [data, Schema.nestOf, Schema.elementsNestOf, Schema.membersNestOf, reserved, other,
      leaf, if_true, Bool.false_eq_true, if_false, Nat.max_zero]
  have compiled : Schema.compile data =
      .ok (.list [("$.a", .object [("b", .scalar "str $.b")])]) := by rfl
  have found : partItems document "$.a" = .ok [item] := by rfl
  have value : (⟨.standard, 3⟩ : Builder).build data document = .ok (.list [item]) := by
    have own : detach item = .ok item := by
      have formed : Value.AllScalars Json.HasForm item :=
        ⟨List.pairwise_singleton _ _, ⟨_, rfl⟩, trivial, trivial⟩
      have written : Json.write .spaced item = .ok "\x7b\"b\": \"x\"\x7d" := by rfl
      rw [detach, written, Outcome.ok_bind, Json.read_write_of_hasForm formed written]
      rfl
    have inside : evaluateAt ⟨.standard, 3⟩ 2 0 (.object [("b", .scalar "str $.b")]) item =
        .ok item := by rfl
    have first : (detach item >>= fun own => evaluateAt ⟨.standard, 3⟩ 3 1
        (.object [("b", .scalar "str $.b")]) own) = .ok item := by
      rw [own, Outcome.ok_bind, evaluateAt_skip]
      exact inside
    have results : partValues (evaluateAt ⟨.standard, 3⟩ 3 1) document "$.a"
        (.object [("b", .scalar "str $.b")]) = .ok [item] := by
      simp only [partValues, found, Outcome.ok_bind, List.mapM_cons, List.mapM_nil, first]
      rfl
    have here : evaluateAt ⟨.standard, 3⟩ 4 0
        (.list [("$.a", .object [("b", .scalar "str $.b")])]) document = .ok (.list [item]) := by
      rw [evaluateAt, step, List.mapM_cons]
      dsimp only
      rw [results]
      rfl
    rw [build, compiled, Outcome.ok_bind, evaluate]
    exact here
  have selects : ∀ schema, Schema.compile data = .ok schema → SelectsItems schema document := by
    intro schema h path inner iterates
    rw [compiled] at h
    cases h
    cases iterates with
    | part isPart =>
      cases isPart with
      | list among =>
        cases List.mem_singleton.mp among
        rw [found]
        rintro ⟨⟩
    | item isPart _ _ _ inside =>
      cases isPart with
      | list among =>
        cases List.mem_singleton.mp among
        cases inside with
        | part isPart => cases isPart
        | field among inside =>
          cases List.mem_singleton.mp among
          exact selectsItems_scalar _ _ path inner inside
        | item isPart => cases isPart
  have deeper := (build_tooDeep_of_nest .standard apart 2 data).2.1 (by rw [nest]; decide)
    document 3 (.list [item]) value selects
  have fits := (build_tooDeep_of_nest .standard apart 3 data).1 (by rw [nest]; decide)
  exact ⟨apart, nest, value, selects, deeper, fits⟩

end Limits

end Stencil.Builder
