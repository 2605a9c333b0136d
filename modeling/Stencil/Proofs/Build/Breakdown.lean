import Stencil.Proofs.Build.Operation
import Stencil.Proofs.Schema.Form

/-!
# Where building breaks down

Building from a document that was read gives a value, fails with an error for the caller, or breaks
down because one of the operations performed on the way does. By induction on the levels: what an
evaluation goes on to has fewer of them.
-/

namespace Stencil

open Outcome (FailsOnly)

namespace Builder

open Expression (Argument Token)
open Json (HasForm IsShown)
open Value (AllScalars)

section Evaluating

variable {b : Builder} {levels : Nat} {expression : String} {document : Value}

/-- A path expression fails as its query does, or as the cast of a value that it finds. -/
theorem failsOnly_fromPath (formed : AllScalars HasForm document) {tag : Tag} {body : List Char}
    {path : String} {rest : List Token} (reads : Reads expression tag body (.path path :: rest)) :
    FailsOnly (FailsFrom b ⟨levels + 1, .scalar expression, document⟩)
      (fromPath tag document path) := by
  rw [fromPath_eq]
  refine (failsOnly_query (.query (.expression reads))).bind_of_ok fun v found => ?_
  have each := hasForm_of_read formed found
  have source {w : Value} (among : w ∈ castSources tag v) :
      FailsOnly (FailsFrom b ⟨levels + 1, .scalar expression, document⟩)
        (castItem (kindOf tag) w) :=
    failsOnly_castValue
      (Value.allScalars_of_mem_elements each (mem_elements_of_mem_castSources among))
      (.cast reads found among)
  rcases fromFound_cases tag v with same | ⟨kind, rfl, same⟩ | ⟨w, among, same⟩
  · rw [same]
    exact .ok _
  · rw [same, castList_eq]
    exact (FailsOnly.mapM_of_mem fun w inside => source inside).map _
  · rw [same]
    exact source among

/-- Evaluations with some number of levels fail in these ways only. -/
def FailsOnlyFrom (b : Builder) (levels : Nat) : Prop :=
  ∀ schema document, AllScalars HasForm document →
    FailsOnly (FailsFrom b ⟨levels, schema, document⟩) (evaluateAt b levels 0 schema document)

/-- A list part fails as its query does, where an item cannot be copied, or as an item does. -/
theorem failsOnly_partValues (formed : AllScalars HasForm document) {schema element : Schema}
    {path : String} (part : IsPart schema path element) (below : FailsOnlyFrom b (levels - 1)) :
    FailsOnly (FailsFrom b ⟨levels + 1, schema, document⟩)
      (partValues (evaluateAt b levels 1) document path element) := by
  refine (failsOnly_partItems (.query (.part part))).bind_of_ok fun items found => ?_
  refine .mapM_of_mem fun item among => ?_
  obtain ⟨v, read, inside⟩ := exists_of_mem_partItems found among
  have itemFormed := Value.allScalars_of_mem_elements (hasForm_of_read formed read) inside
  refine FailsOnly.bind_of_ok
    (failsOnly_run (.copy part found among) (failsOnly_detach itemFormed)) fun own detached => ?_
  rw [evaluateAt_skip]
  exact (below element own (hasForm_of_detach detached)).mono fun failure =>
    .of_step (.item part found among detached)

section Scalar

variable (standard : b.functions = .standard) (formed : AllScalars HasForm document)

include standard formed

/-- A text with spans fails as a span does, or where the value of a span cannot be shown. -/
theorem failsOnly_interpolate {text : String} {deeper : Nat}
    (has : HasText levels expression text deeper) (below : FailsOnlyFrom b deeper) :
    FailsOnly (FailsFrom b ⟨levels + 1, .scalar expression, document⟩)
      (interpolate (evaluateAt b deeper 0) document text) := by
  refine FailsOnly.bind (.mapM_of_mem fun piece among => ?_) fun parts => .ok _
  cases piece with
  | char c => exact .ok _
  | span body =>
    have value := below (.scalar (String.ofList body)) document formed
    refine FailsOnly.bind_of_ok (value.mono fun failure => .of_step (.span has among))
      fun v found => ?_
    have kept := givesKept standard deeper _ document v formed found
    exact (failsOnly_text kept (.text has among found)).bind fun s => .ok _

/-- A literal argument fails as the text that it is. -/
theorem failsOnly_literalArgument {raw : String} {deeper : Nat}
    (has : HasText levels expression raw deeper) (below : FailsOnlyFrom b deeper) :
    FailsOnly (FailsFrom b ⟨levels + 1, .scalar expression, document⟩)
      (literalArgument (evaluateAt b deeper 0) document raw) := by
  unfold literalArgument
  dsimp only
  split
  · exact .ok _
  · split
    · exact .ok _
    · split
      · exact .ok _
      · exact (failsOnly_interpolate standard formed has below).map _

/-- A literal fails as its text does, or as the JSON that it is read as. -/
theorem failsOnly_fromLiteral {tag : Tag} {body : List Char} {tokens : List Token}
    (reads : Reads expression tag body tokens) (literal : IsLiteral tokens)
    (below : FailsOnlyFrom b levels) :
    FailsOnly (FailsFrom b ⟨levels + 1, .scalar expression, document⟩)
      (fromLiteral (evaluateAt b levels 0) tag document (String.ofList body)) := by
  cases tag with
  | many kind =>
    refine (failsOnly_parse (.parse reads literal trivial)).bind_of_ok fun v found => ?_
    have read := read_of_jsonLiteral found
    rw [castList_eq]
    refine (FailsOnly.mapM_of_mem fun w inside => ?_).map _
    have item := Value.allScalars_of_mem_elements (Json.of_read read).1 inside
    exact failsOnly_castValue item (.item reads literal read inside)
  | one kind =>
    cases kind with
    | string =>
      exact (failsOnly_interpolate standard formed (.literal reads literal) below).map _
    | object => exact failsOnly_parse (.parse reads literal rfl)
    | _ =>
      -- a text can always be shown
      have shown : AllScalars IsShown (.text (String.ofList body)) := trivial
      have textFormed : AllScalars HasForm (.text (String.ofList body)) := trivial
      simp only [fromLiteral]
      refine (failsOnly_cast textFormed _).mono fun failure fails => ?_
      rcases fails with error | ⟨_, ⟨-, hidden⟩, -⟩
      · exact .inl error
      · exact absurd shown hidden

/-- A call fails as its arguments do, or its function breaks down. -/
theorem failsFrom_callValue {tag : Tag} {name called : String} {arguments inner : List Argument}
    {below : Nat} (calls : Calls expression tag name arguments)
    (within : Within (.call name arguments) (.call called inner) below)
    (values : FailsOnly (FailsFrom b ⟨levels + 1, .scalar expression, document⟩)
      (argumentValues b levels (evaluateAt b levels) document inner (below + 1))) :
    FailsOnly (FailsFrom b ⟨levels + 1, .scalar expression, document⟩)
      (callValue b levels below (if below = 0 then some tag else none) called
        (argumentValues b levels (evaluateAt b levels) document inner (below + 1))) := by
  unfold callValue
  split
  · exact .error (.inl ⟨_, rfl⟩)
  · refine FailsOnly.bind_of_ok ((b.functions.failsOnly_get called).mono fun failure => .inl)
      fun f known => values.bind_of_ok fun vs given => ?_
    have kept := isKept_of_argumentValues standard formed inner (below + 1) given
    exact failsOnly_call standard known kept (.call calls within known given)

end Scalar

variable {tag : Tag} {name : String} {arguments : List Argument}

mutual

/-- An argument of a call fails as its query, its text or its call does. -/
theorem failsFrom_argumentValue (standard : b.functions = .standard)
    (formed : AllScalars HasForm document) (deeper : ∀ levels' ≤ levels, FailsOnlyFrom b levels')
    (calls : Calls expression tag name arguments) (argument : Argument) (below : Nat)
    (within : Within (.call name arguments) argument (below + 1)) :
    FailsOnly (FailsFrom b ⟨levels + 1, .scalar expression, document⟩)
      (argumentValue b levels (evaluateAt b levels) document argument (below + 1)) := by
  cases argument with
  | path path => exact failsOnly_query (.argument calls within)
  | raw raw =>
    rw [argumentValue, evaluateAt_skip]
    exact failsOnly_literalArgument standard formed (.argument calls within)
      (deeper _ (Nat.sub_le _ _))
  | call called inner =>
    have values := failsFrom_argumentValues standard formed deeper calls inner (below + 1)
      fun argument among => .argument within among
    have value := failsFrom_callValue standard formed calls within values
    rw [if_neg (Nat.succ_ne_zero below)] at value
    exact value
  termination_by structural argument

/-- Arguments of a call fail as the first of them that fails. -/
theorem failsFrom_argumentValues (standard : b.functions = .standard)
    (formed : AllScalars HasForm document) (deeper : ∀ levels' ≤ levels, FailsOnlyFrom b levels')
    (calls : Calls expression tag name arguments) (inner : List Argument) (below : Nat)
    (within : ∀ argument ∈ inner, Within (.call name arguments) argument (below + 1)) :
    FailsOnly (FailsFrom b ⟨levels + 1, .scalar expression, document⟩)
      (argumentValues b levels (evaluateAt b levels) document inner (below + 1)) := by
  cases inner with
  | nil => exact .ok []
  | cons argument inner =>
    obtain ⟨here, others⟩ := List.forall_mem_cons.mp within
    have first := failsFrom_argumentValue standard formed deeper calls argument below here
    have rest := failsFrom_argumentValues standard formed deeper calls inner below others
    exact first.bind fun v => rest.bind fun vs => .ok (v :: vs)
  termination_by structural inner

end

/-- An expression fails as its query, its call or its literal does. -/
theorem failsOnly_scalarValue (standard : b.functions = .standard)
    (formed : AllScalars HasForm document) (deeper : ∀ levels' ≤ levels, FailsOnlyFrom b levels') :
    FailsOnly (FailsFrom b ⟨levels + 1, .scalar expression, document⟩)
      (scalarValue b levels (evaluateAt b levels) expression document) := by
  unfold scalarValue
  split
  · exact .error (.inl ⟨_, rfl⟩)
  · next word body split =>
    split
    · exact .error (.inl ⟨_, rfl⟩)
    · next tag known =>
      have tagged : ∃ word, splitTag? expression.toList = some (word, body) ∧
          Tag.ofWord? (String.ofList word) = some tag := ⟨word, split, known⟩
      -- one case for each way to a value
      split
      · exact .error (.inl ⟨_, rfl⟩)
      · next path rest tokenized => exact failsOnly_fromPath formed ⟨tagged, tokenized⟩
      · next name rest tokenized =>
        obtain ⟨arguments, rfl⟩ := Expression.exists_call tokenized
        have calls : Calls expression tag name arguments := ⟨body, tagged, tokenized⟩
        have values := failsFrom_argumentValues standard formed deeper calls arguments 0
          fun argument among => .argument .call among
        have value := failsFrom_callValue standard formed calls .call values
        rw [runCall_flattenAll]
        exact (value.map _).map _
      · next tokens noPath noCall tokenized =>
        have literal : IsLiteral tokens := by
          unfold IsLiteral
          split
          · exact noPath _ _ rfl
          · exact noCall _ _ rfl
          · trivial
        exact failsOnly_fromLiteral standard formed ⟨tagged, tokenized⟩ literal
          (deeper levels (Nat.le_refl levels))

/-- A schema whose own level is allowed fails as an expression, a member or a list part does. -/
theorem failsOnly_step (standard : b.functions = .standard)
    (formed : AllScalars HasForm document) (deeper : ∀ levels' ≤ levels, FailsOnlyFrom b levels')
    (schema : Schema) :
    FailsOnly (FailsFrom b ⟨levels + 1, schema, document⟩)
      (step b levels (evaluateAt b levels) schema document) := by
  cases schema with
  | scalar expression => exact failsOnly_scalarValue standard formed deeper
  | object fields =>
    refine FailsOnly.bind (.mapM_of_mem fun field among => ?_) fun members => .ok _
    have child := deeper levels (Nat.le_refl levels) field.2 document formed
    exact (child.mono fun failure => .of_step (.field among)).bind fun v => .ok _
  | arrayOf path element =>
    exact (failsOnly_partValues formed .arrayOf (deeper _ (Nat.sub_le _ _))).map _
  | list parts =>
    refine FailsOnly.bind (.mapM_of_mem fun part among => ?_) fun results => .ok _
    exact failsOnly_partValues formed (.list among) (deeper _ (Nat.sub_le _ _))
  | unsupported kind => exact .error (.inl ⟨_, rfl⟩)

/-- Whatever the number of levels, evaluations fail in these ways only. -/
theorem failsOnlyFrom (standard : b.functions = .standard) (levels : Nat) :
    FailsOnlyFrom b levels := by
  -- Arguments and items skip levels, so the hypothesis is needed for all lower ones.
  induction levels using Nat.strongRecOn with
  | ind levels ih =>
    intro schema document formed
    cases levels with
    | zero => exact .error (.inl ⟨_, rfl⟩)
    | succ levels =>
      exact failsOnly_step standard formed (fun levels' le => ih levels' (Nat.lt_succ_of_le le))
        schema

end Evaluating

/-- An operation breaks down by a defect: the schema compiles, and an operation that is performed on
the way breaks down by the defect, in one of its own ways. -/
def OperationBreaks (b : Builder) (schema document : Value) (d : Defect) : Prop :=
  ∃ compiled e operation, Schema.compile schema = .ok compiled ∧
    Evaluation.Reaches ⟨b.levels, compiled, document⟩ e ∧ Performs b e operation ∧
    operation.run = .error (.defect d) ∧ operation.BreaksBy d

/-- Building breaks down by a defect. -/
inductive BreaksIn (b : Builder) (schema document : Value) : Defect → Prop where
  /-- An operation that is performed on the way does. -/
  | operation {d : Defect} (breaks : OperationBreaks b schema document d) :
    BreaksIn b schema document d
  /-- The schema does not compile: one of its keys is no text, but an integer too long to be
  written. -/
  | key (long : Schema.HasLongKey schema)
    (broken : Schema.compile schema = .error (.defect .value)) : BreaksIn b schema document .value

/-- Where the keys of a schema are texts, it is an operation that breaks down. -/
theorem BreaksIn.operationBreaks {b : Builder} {p : Value → Prop} {schema document : Value}
    {d : Defect} (texts : AllScalars p schema) (breaks : BreaksIn b schema document d) :
    OperationBreaks b schema document d := by
  cases breaks with
  | operation breaks => exact breaks
  | key long broken => exact absurd long (Schema.not_hasLongKey texts)

/-- The defects by which building breaks down. -/
def breakdowns : List Defect := [.value, .invalidOperation, .decimalOverflow, .unsupported]

/-- No other defect is among the ways of an operation. -/
theorem Operation.BreaksBy.mem_breakdowns {operation : Operation} {d : Defect}
    (h : operation.BreaksBy d) : d ∈ breakdowns := by
  cases operation with
  | query => rcases h with rfl | rfl <;> decide
  | parse => rcases h with rfl | rfl <;> decide
  | cast | copy | text =>
    obtain ⟨rfl, -⟩ := h
    decide
  | call =>
    rcases h with ⟨rfl, -⟩ | ⟨-, trap, rfl⟩
    · decide
    · cases trap <;> decide

/-- Building from a document that has a form fails with an error or breaks down. -/
theorem failsOnly_build {b : Builder} (standard : b.functions = .standard) {document : Value}
    (formed : AllScalars HasForm document) (schema : Value) :
    FailsOnly (Failure.IsErrorOr fun d => d ∈ breakdowns ∧ BreaksIn b schema document d)
      (b.build schema document) := by
  refine FailsOnly.bind_of_ok (fun failure broken => ?_) fun compiled found => ?_
  · cases Schema.failsOnly_compile schema failure broken with
    | refused refused =>
      obtain ⟨problem, rfl⟩ := refused.isProblem
      exact .inl ⟨_, rfl⟩
    | key long => exact .inr ⟨.value, ⟨by decide, .key long broken⟩, rfl⟩
  · refine (failsOnlyFrom standard b.levels compiled document formed).mono fun failure fails => ?_
    rcases fails with error | ⟨d, ⟨e, operation, reaches, performs, broken, ways⟩, rfl⟩
    · exact .inl error
    · exact .inr ⟨d, ⟨ways.mem_breakdowns,
        .operation ⟨compiled, e, operation, found, reaches, performs, broken, ways⟩⟩, rfl⟩

/-- Building from a plain value that has a form may also break down because the value cannot be
shown, so that it cannot become a document. -/
theorem failsOnly_buildPlain {b : Builder} (standard : b.functions = .standard) {v : Value}
    (formed : AllScalars HasForm v) (schema : Value) :
    FailsOnly (Failure.IsErrorOr fun d => d ∈ breakdowns ∧
        (IsUnshown v d ∨ ∃ own, detach v = .ok own ∧ BreaksIn b schema own d))
      (b.buildPlain schema v) := by
  refine FailsOnly.bind_of_ok ((failsOnly_detach formed).mono fun failure fails => ?_)
    fun own detached => ?_
  · rcases fails with error | ⟨d, unshown, rfl⟩
    · exact .inl error
    · have ways : (Operation.copy v).BreaksBy d := unshown
      exact .inr ⟨d, ⟨ways.mem_breakdowns, .inl unshown⟩, rfl⟩
  · have fails := failsOnly_build standard (hasForm_of_detach detached) schema
    refine fails.mono fun failure fails => ?_
    rcases fails with error | ⟨d, ⟨kind, breaks⟩, rfl⟩
    · exact .inl error
    · exact .inr ⟨d, ⟨kind, .inr ⟨own, detached, breaks⟩⟩, rfl⟩

/-- An outcome that fails in these ways only is a value, an error for the caller, or a breakdown. -/
theorem cases_of_failsOnly {α : Type} {breaks : Defect → Prop} {x : Outcome α}
    (h : FailsOnly (Failure.IsErrorOr breaks) x) :
    (∃ a, x = .ok a) ∨ (∃ error, x = .error (.error error)) ∨
      ∃ d, breaks d ∧ x = .error (.defect d) := by
  cases x with
  | ok a => exact .inl ⟨a, rfl⟩
  | error failure =>
    rcases h failure rfl with ⟨error, rfl⟩ | ⟨d, ways, rfl⟩
    · exact .inr (.inl ⟨error, rfl⟩)
    · exact .inr (.inr ⟨d, ways, rfl⟩)

/-- The outcome of building with the standard functions from what a text is read as, taken as the
document itself or as a plain value that becomes a document first. Building gives a value, or fails
with an error for the caller, or breaks down by one of four defects: then the plain value cannot be
shown, or an operation that is performed on the way breaks down by this defect, or a key of the
schema cannot be shown, which a key that is a text always can. So wherever no operation does, the
outcome for a schema in JSON is a value or an error for the caller. -/
theorem outcome_of_build {text : String} {v : Value} (read : Json.read text = .ok v) (limit : Int)
    (schema : Value) :
    let b : Builder := ⟨.standard, limit⟩
    ((∃ result, b.build schema v = .ok result) ∨
      (∃ error, b.build schema v = .error (.error error)) ∨
      ∃ d, (d ∈ breakdowns ∧ BreaksIn b schema v d) ∧ b.build schema v = .error (.defect d)) ∧
    ((∃ result, b.buildPlain schema v = .ok result) ∨
      (∃ error, b.buildPlain schema v = .error (.error error)) ∨
      ∃ d, (d ∈ breakdowns ∧
          (IsUnshown v d ∨ ∃ document, detach v = .ok document ∧ BreaksIn b schema document d)) ∧
        b.buildPlain schema v = .error (.defect d)) ∧
    (AllScalars (fun _ => True) schema → ∀ document d,
      BreaksIn b schema document d → OperationBreaks b schema document d) := by
  intro b
  have formed := (Json.of_read read).1
  exact ⟨cases_of_failsOnly (failsOnly_build rfl formed schema),
    cases_of_failsOnly (failsOnly_buildPlain rfl formed schema),
    fun texts document d breaks => breaks.operationBreaks texts⟩

/-- A number that is read but too long to be shown cannot be copied as an item of a list part. -/
theorem outcome_of_build_long :
    let v : Value := .decimal (.finite false 1 5000)
    Json.read "1e5000" = .ok v ∧
    BreaksIn ⟨.standard, 100⟩ (.list [.object [(.text "__array_path", .text "$")]]) v .value := by
  intro v
  have read : Json.read "1e5000" = .ok v := rfl
  have built : (⟨.standard, 100⟩ : Builder).build
    (.list [.object [(.text "__array_path", .text "$")]]) v = .error (.defect .value) := rfl
  refine ⟨read, ?_⟩
  rcases (outcome_of_build read 100 (.list [.object [(.text "__array_path", .text "$")]])).1 with
    ⟨result, given⟩ | ⟨error, refused⟩ | ⟨d, ⟨-, breaks⟩, broken⟩
  · rw [built] at given
    cases given
  · rw [built] at refused
    cases refused
  · rw [built] at broken
    cases broken
    exact breaks

/-- The text of the undefined number is cast to it, and comparing it breaks down the least item. -/
theorem build_eq_defect_of_read :
    let v : Value := .object [(.text "a", .list [.text "NaN", .text "1"])]
    Json.read "\x7b\"a\": [\"NaN\", \"1\"]\x7d" = .ok v ∧
    (⟨.standard, 100⟩ : Builder).build (.text "num min($.a)") v =
      .error (.defect .invalidOperation) := by
  intro v
  have formed : AllScalars HasForm v :=
    ⟨List.pairwise_singleton _ _, ⟨_, rfl⟩, ⟨trivial, trivial, trivial⟩, trivial⟩
  have written : Json.write .spaced v = .ok "\x7b\"a\": [\"NaN\", \"1\"]\x7d" := rfl
  have head : Expression.tokenize "min($.a)" =
      Expression.callTokens "min".toList "$.a".toList := by rfl
  have pieces : Expression.splitArguments "$.a".toList = .ok ["$.a".toList] := by rfl
  have path : Expression.shapeOf "$.a".toList = .ok (.leaf (.path "$.a")) := by rfl
  have none : Expression.argumentTokens [] = .ok [] := by rw [Expression.argumentTokens]
  have tokens : Expression.tokenize "min($.a)" = .ok [.call "min", .path "$.a", .close] := by
    rw [head, Expression.callTokens, pieces]
    simp only [Outcome.ok_bind, Expression.argumentTokens_cons, path, Expression.Shape.tokens,
      none, String.ofList_toList]
    rfl
  have split : splitTag? "num min($.a)".toList = some ("num".toList, "min($.a)".toList) := by rfl
  have value : (⟨.standard, 100⟩ : Builder).build (.text "num min($.a)") v =
      scalarValue ⟨.standard, 100⟩ 100 (evaluateAt ⟨.standard, 100⟩ 100) "num min($.a)" v := rfl
  refine ⟨Json.read_write_of_hasForm formed written, ?_⟩
  rw [value, scalarValue, split]
  simp only [String.ofList_toList, tokens]
  rfl

end Builder

end Stencil
