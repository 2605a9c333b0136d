import Stencil.Build
import Stencil.Proofs.Outcome

/-!
# The limit of levels only cuts off

A builder with a lower limit refuses what lies too deep, and does everything else as a builder with
a higher limit does. Each way to go a level down hands the relation between the two evaluators on:
spans, calls and arguments of calls, members of objects, and items of list parts.
-/

namespace Stencil.Builder

open Outcome (CutTo)

variable {α : Type} {b b' : Builder}

/-- The refusal of a level is an error that names the limit. -/
theorem message_tooDeep (limit : Int) :
    (Error.schema (.tooDeep limit)).message =
      "Schema nesting exceeds maximum depth of " ++ Wording.number limit := rfl

/-- The outcomes agree, unless the first one is the refusal of a level by the builder. -/
abbrev CutOff (b : Builder) : Outcome α → Outcome α → Prop :=
  CutTo (.error (.schema (.tooDeep b.maxDepth)))

/-- What an evaluator gives agrees with what another one gives, up to refusals. -/
def Refuses (b : Builder) (f f' : Evaluator) : Prop :=
  ∀ schema document, CutOff b (f schema document) (f' schema document)

namespace Refuses

variable {f f' : Evaluator}

/-- Spans are evaluated a level deeper. -/
theorem interpolate (h : Refuses b f f') (document : Value) (text : String) :
    CutOff b (interpolate f document text) (interpolate f' document text) := by
  refine CutTo.bind (CutTo.mapM (fun piece => ?_) _) fun parts => .refl _
  cases piece with
  | char c => exact .refl _
  | span body => exact (h _ document).bind fun v => .refl _

/-- A literal argument is evaluated where it is not a number or a truth value. -/
theorem literalArgument (h : Refuses b f f') (document : Value) (raw : String) :
    CutOff b (literalArgument f document raw) (literalArgument f' document raw) := by
  unfold Builder.literalArgument
  dsimp only
  split
  · exact .refl _
  · split
    · exact .refl _
    · split
      · exact .refl _
      · exact (h.interpolate document raw).map _

/-- A literal is evaluated where a text is asked for. -/
theorem fromLiteral (h : Refuses b f f') (tag : Tag) (document : Value) (raw : String) :
    CutOff b (fromLiteral f tag document raw) (fromLiteral f' tag document raw) := by
  cases tag with
  | many kind => exact .refl _
  | one kind =>
    cases kind with
    | string => exact (h.interpolate document raw).map _
    | _ => exact .refl _

/-- The items of a list part are evaluated one after another. -/
theorem partValues (h : Refuses b f f') (document : Value) (path : String) (element : Schema) :
    CutOff b (partValues f document path element) (partValues f' document path element) := by
  refine CutTo.bind (.refl _) fun items => CutTo.mapM (fun item => ?_) _
  exact CutTo.bind (.refl _) fun own => h element own

/-- The members of an object are evaluated one after another. -/
theorem objectValue (h : Refuses b f f') (document : Value) (fields : List (String × Schema)) :
    CutOff b (objectValue f document fields) (objectValue f' document fields) := by
  refine CutTo.bind (CutTo.mapM (fun field => ?_) _) fun members => .refl _
  exact (h field.2 document).bind fun v => .refl _

end Refuses

section Levels

variable {levels levels' : Nat} {evaluate evaluate' : Nat → Evaluator}

/-- A run over the tokens of a call goes the same way until it enters a call too deep. -/
theorem runTokens_cutOff (functions : b.functions = b'.functions) (le : levels ≤ levels')
    (h : ∀ skip, Refuses b (evaluate skip) (evaluate' skip)) (tag : Tag) (document : Value)
    (tokens : List Expression.Token) (frame : Frame) (outer : List Frame) :
    CutOff b (runTokens b levels evaluate tag document tokens frame outer)
      (runTokens b' levels' evaluate' tag document tokens frame outer) := by
  induction tokens generalizing frame outer with
  | nil => exact .refl _
  | cons token rest ih =>
    cases token with
    | path path => exact CutTo.bind (.refl _) fun v => ih _ _
    | raw raw => exact ((h _).literalArgument document raw).bind fun v => ih _ _
    | call name =>
      rw [runTokens, runTokens]
      by_cases deep : levels ≤ outer.length + 1
      · rw [if_pos deep]
        exact .cut _
      · have deep' : ¬levels' ≤ outer.length + 1 := by omega
        rw [if_neg deep, if_neg deep', functions]
        exact CutTo.bind (.refl _) fun function => ih _ _
    | close =>
      cases outer with
      | nil => exact .refl _
      | cons parent outer => exact CutTo.bind (.refl _) fun v => ih _ _

/-- A call goes the same way until it enters a call too deep, which may be itself. -/
theorem runCall_cutOff (functions : b.functions = b'.functions) (le : levels ≤ levels')
    (h : ∀ skip, Refuses b (evaluate skip) (evaluate' skip)) (tag : Tag) (document : Value)
    (name : String) (tokens : List Expression.Token) :
    CutOff b (runCall b levels evaluate tag document name tokens)
      (runCall b' levels' evaluate' tag document name tokens) := by
  unfold runCall
  by_cases deep : levels = 0
  · rw [if_pos deep]
    exact .cut _
  · have deep' : ¬levels' = 0 := by omega
    rw [if_neg deep, if_neg deep', functions]
    exact CutTo.bind (.refl _) fun function => runTokens_cutOff functions le h _ _ _ _ _

/-- An expression reads its tag and its body the same way, and goes down in calls and spans. -/
theorem scalarValue_cutOff (functions : b.functions = b'.functions) (le : levels ≤ levels')
    (h : ∀ skip, Refuses b (evaluate skip) (evaluate' skip)) (expression : String)
    (document : Value) :
    CutOff b (scalarValue b levels evaluate expression document)
      (scalarValue b' levels' evaluate' expression document) := by
  unfold scalarValue
  split
  · exact .refl _
  · split
    · exact .refl _
    · split
      · exact .refl _
      · exact .refl _
      · exact (runCall_cutOff functions le h _ _ _ _).map _
      · exact (h 0).fromLiteral _ _ _

/-- A schema whose own level is allowed goes down the same way. -/
theorem step_cutOff (functions : b.functions = b'.functions) (le : levels ≤ levels')
    (h : ∀ skip, Refuses b (evaluate skip) (evaluate' skip)) :
    Refuses b (step b levels evaluate) (step b' levels' evaluate') := by
  intro schema document
  cases schema with
  | scalar expression => exact scalarValue_cutOff functions le h expression document
  | object fields => exact (h 0).objectValue document fields
  | arrayOf path element => exact ((h 1).partValues document path element).map _
  | list parts =>
    refine CutTo.bind (CutTo.mapM (fun part => ?_) _) fun results => .refl _
    exact (h 1).partValues document part.1 part.2
  | unsupported kind => exact .refl _

/-- Fewer levels only refuse more, from whatever level the evaluation starts. -/
theorem evaluateAt_cutOff (functions : b.functions = b'.functions) (le : levels ≤ levels')
    (skip : Nat) : Refuses b (evaluateAt b levels skip) (evaluateAt b' levels' skip) := by
  -- The lower limit runs out first, so the induction is on its levels.
  induction levels generalizing levels' skip with
  | zero => exact fun schema document => .cut _
  | succ levels ih =>
    obtain ⟨more, rfl⟩ : ∃ more, levels' = more + 1 := ⟨levels' - 1, by omega⟩
    have below := Nat.le_of_succ_le_succ le
    cases skip with
    | zero => exact step_cutOff functions below fun skip => ih below skip
    | succ skip => exact ih below skip

end Levels

/-- A compiled schema: fewer levels only refuse more. -/
theorem evaluate_cutOff (functions : b.functions = b'.functions) (le : b.maxDepth ≤ b'.maxDepth) :
    Refuses b b.evaluate b'.evaluate := by
  have more : b.levels ≤ b'.levels := by
    unfold Builder.levels
    omega
  exact evaluateAt_cutOff functions more 0

/-- A lower limit only cuts off. Building with it, from data, from a compiled schema or for a plain
value, is refused with the limit in the message, or gives the value or the failure that building
with a higher limit gives. -/
theorem build_of_le_maxDepth (functions : Registry) {limit limit' : Int} (le : limit ≤ limit')
    (data document : Value) (schema : Schema) :
    let lower : Builder := ⟨functions, limit⟩
    let higher : Builder := ⟨functions, limit'⟩
    (lower.build data document = Outcome.schema (.tooDeep limit) ∨
      lower.build data document = higher.build data document) ∧
    (lower.evaluate schema document = Outcome.schema (.tooDeep limit) ∨
      lower.evaluate schema document = higher.evaluate schema document) ∧
    (lower.buildPlain data document = Outcome.schema (.tooDeep limit) ∨
      lower.buildPlain data document = higher.buildPlain data document) ∧
    (Error.schema (.tooDeep limit)).message =
      "Schema nesting exceeds maximum depth of " ++ Wording.number limit := by
  intro lower higher
  have compiled : Refuses lower lower.evaluate higher.evaluate := evaluate_cutOff rfl le
  have built (document : Value) :
      CutOff lower (lower.build data document) (higher.build data document) :=
    CutTo.bind (.refl _) fun schema => compiled schema document
  have plain : CutOff lower (lower.buildPlain data document) (higher.buildPlain data document) :=
    CutTo.bind (.refl _) fun document => built document
  exact ⟨built document, compiled schema document, plain, message_tooDeep limit⟩

/-- One level is enough for a member of an object, so a hundred levels give the same object. -/
theorem build_of_le_maxDepth_member :
    (1 : Int) ≤ 100 ∧
    (⟨.standard, 100⟩ : Builder).build (.object [(.text "name", .text "str Ada")]) .null =
      .ok (.object [(.text "name", .text "Ada")]) := by
  have le : (1 : Int) ≤ 100 := by decide
  have enough : (⟨.standard, 1⟩ : Builder).build (.object [(.text "name", .text "str Ada")]) .null =
      .ok (.object [(.text "name", .text "Ada")]) := rfl
  refine ⟨le, ?_⟩
  rcases (build_of_le_maxDepth .standard le (.object [(.text "name", .text "str Ada")]) .null
    (.scalar "str Ada")).1 with refused | same
  · rw [enough] at refused
    cases refused
  · exact same.symm.trans enough

end Stencil.Builder
