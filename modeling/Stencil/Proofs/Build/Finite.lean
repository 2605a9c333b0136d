import Stencil.Proofs.Build.Operation
import Stencil.Proofs.Function.Finite

/-!
# Where infinite and undefined numbers come from

Building from a standard document gives a value that is written as standard JSON, unless a text or a
literal on the way is taken for an infinite or undefined number. By induction on the levels: all
other operations make finite numbers of finite numbers.
-/

namespace Stencil.Builder

open Expression (Argument Token)
open Json (IsFinite)
open Value (AllScalars)

/-- An evaluation itself makes an infinite or undefined number: of a text that is cast, of a number
literal, of a JSON literal, or of a text that a function casts before it calculates or compares. -/
inductive MakesSpecial (b : Builder) : Evaluation → Prop
  /-- Of a text that is cast. -/
  | cast {e : Evaluation} {s : String} : Performs b e (.cast (.text s) .number) →
    SpellsSpecial s → MakesSpecial b e
  /-- Of a number literal. -/
  | literal {levels : Nat} {expression : String} {document : Value} {body : List Char}
    {tokens : List Token} : Reads expression (.one .number) body tokens → IsLiteral tokens →
    SpellsSpecial (String.ofList body) → MakesSpecial b ⟨levels + 1, .scalar expression, document⟩
  /-- Of a JSON literal. -/
  | parse {e : Evaluation} {raw : String} {v : Value} : Performs b e (.parse raw) →
    Json.read raw = .ok v → ¬AllScalars IsFinite v → MakesSpecial b e
  /-- Of a text among the items of a function's arguments. -/
  | call {e : Evaluation} {f : Function} {requested : Option Tag} {vs : List Value} {s : String} :
    Performs b e (.call f requested vs) → f.name ∈ Function.arithmetic →
    .text s ∈ Function.flatten vs → SpellsSpecial s → MakesSpecial b e

/-- No evaluation that is reached makes an infinite or undefined number. -/
def StaysFinite (b : Builder) (e : Evaluation) : Prop :=
  ∀ e', e.Reaches e' → ¬MakesSpecial b e'

/-- What an evaluation goes on to stays finite with it. -/
theorem StaysFinite.step {b : Builder} {e e' : Evaluation} (stays : StaysFinite b e)
    (step : e.Step e') : StaysFinite b e' :=
  fun last reaches => stays last (.head step reaches)

/-- The evaluation itself makes none. -/
theorem StaysFinite.here {b : Builder} {e : Evaluation} (stays : StaysFinite b e) :
    ¬MakesSpecial b e :=
  stays e (.refl e)

section Expressions

variable {b : Builder} {levels : Nat} {expression : String} {document v : Value}

/-- What a query finds in a finite document is finite. -/
theorem isFinite_of_read (finite : AllScalars IsFinite document) {path : String}
    (h : Path.read document path = .ok v) : AllScalars IsFinite v :=
  Path.allScalars_of_read trivial (fun _ => trivial) finite h

/-- A document of its own, made of a finite value, is finite: it is read from standard JSON. -/
theorem isFinite_of_detach {own : Value} (finite : AllScalars IsFinite v)
    (h : detach v = .ok own) : AllScalars IsFinite own := by
  obtain ⟨text, written, read⟩ := Outcome.exists_of_bind_eq_ok h
  exact Json.allScalars_of_isStandard (Json.isStandard_of_write finite written) read

/-- The value of a literal argument is finite: a number with a point in it is. -/
theorem isFinite_of_literalArgument {evaluate : Evaluator} {raw : String}
    (h : literalArgument evaluate document raw = .ok v) : AllScalars IsFinite v := by
  unfold literalArgument at h
  dsimp only at h
  split at h
  · next number =>
    cases h
    split at number
    · next pointed =>
      obtain ⟨d, read, rfl⟩ := Option.map_eq_some_iff.mp number
      have point : '.' ∈ raw.toList := by simpa using pointed
      exact Decimal.isFinite_of_read? point read
    · obtain ⟨n, -, rfl⟩ := Option.map_eq_some_iff.mp number
      trivial
  · split at h
    · cases h
      trivial
    · split at h
      · cases h
        trivial
      · obtain ⟨text, -, rfl⟩ := Outcome.exists_of_map_eq_ok h
        trivial

section Performed

variable (stays : StaysFinite b ⟨levels + 1, .scalar expression, document⟩)

include stays

/-- A cast that is performed makes finite values of finite ones. -/
theorem isFinite_of_performed {w result : Value} {kind : Kind} (finite : AllScalars IsFinite w)
    (performs : Performs b ⟨levels + 1, .scalar expression, document⟩ (.cast w kind))
    (h : castItem kind w = .ok result) : AllScalars IsFinite result := by
  refine isFinite_of_castItem finite ?_ h
  rintro rfl s rfl special
  exact stays.here (.cast performs special)

/-- A cast of a list makes finite values of finite ones if the cast of each item is performed. -/
theorem isFinite_of_performedList {kind : Kind} {w : Value} (finite : AllScalars IsFinite w)
    (performs : ∀ item ∈ w.elements,
      Performs b ⟨levels + 1, .scalar expression, document⟩ (.cast item kind))
    (h : castList w kind = .ok v) : AllScalars IsFinite v := by
  refine isFinite_of_castList finite (fun item among => ?_) h
  rintro rfl s rfl special
  exact stays.here (.cast (performs _ among) special)

/-- The value of a path expression is finite. -/
theorem isFinite_of_fromPath (finite : AllScalars IsFinite document) {tag : Tag}
    {body : List Char} {path : String} {rest : List Token}
    (reads : Reads expression tag body (.path path :: rest))
    (h : fromPath tag document path = .ok v) : AllScalars IsFinite v := by
  rw [fromPath_eq] at h
  obtain ⟨found, read, h⟩ := Outcome.exists_of_bind_eq_ok h
  have each := isFinite_of_read finite read
  rcases fromFound_cases tag found with same | ⟨kind, rfl, same⟩ | ⟨w, among, same⟩
  · rw [same] at h
    cases h
    trivial
  · rw [same] at h
    exact isFinite_of_performedList stays each (fun item among => .cast reads read among) h
  · rw [same] at h
    have inside := mem_elements_of_mem_castSources among
    have source := Value.allScalars_of_mem_elements each inside
    exact isFinite_of_performed stays source (.cast reads read among) h

/-- The value of a JSON literal is finite. -/
theorem isFinite_of_jsonLiteral {tag : Tag} {body : List Char} {tokens : List Token}
    (reads : Reads expression tag body tokens) (literal : IsLiteral tokens)
    (json : ReadsJson tag) (h : jsonLiteral (String.ofList body) = .ok v) :
    AllScalars IsFinite v := by
  have read := read_of_jsonLiteral h
  exact Classical.byContradiction fun special =>
    stays.here (.parse (.parse reads literal json) read special)

/-- The value of a literal is finite. -/
theorem isFinite_of_fromLiteral {evaluate : Evaluator} {tag : Tag} {body : List Char}
    {tokens : List Token} (reads : Reads expression tag body tokens) (literal : IsLiteral tokens)
    (h : fromLiteral evaluate tag document (String.ofList body) = .ok v) :
    AllScalars IsFinite v := by
  have textFinite : AllScalars IsFinite (.text (String.ofList body)) := trivial
  cases tag with
  | many kind =>
    obtain ⟨w, found, h⟩ := Outcome.exists_of_bind_eq_ok h
    have finite := isFinite_of_jsonLiteral stays reads literal trivial found
    have read := read_of_jsonLiteral found
    exact isFinite_of_performedList stays finite
      (fun item among => .item reads literal read among) h
  | one kind =>
    cases kind with
    | string =>
      obtain ⟨text, -, rfl⟩ := Outcome.exists_of_map_eq_ok h
      trivial
    | object => exact isFinite_of_jsonLiteral stays reads literal rfl h
    | number =>
      simp only [fromLiteral] at h
      refine isFinite_of_cast textFinite ?_ h
      rintro - s same special
      cases same
      exact stays.here (.literal reads literal special)
    | integer | boolean =>
      simp only [fromLiteral] at h
      refine isFinite_of_cast textFinite (fun number => ?_) h
      cases number

/-- The value of a call is finite if the values of its arguments are. -/
theorem isFinite_of_callValue (standard : b.functions = .standard) {tag : Tag}
    {name called : String} {arguments inner : List Argument} {below : Nat}
    (calls : Calls expression tag name arguments)
    (within : Within (.call name arguments) (.call called inner) below)
    (values : ∀ vs, argumentValues b levels (evaluateAt b levels) document inner (below + 1) =
      .ok vs → ∀ v ∈ vs, AllScalars IsFinite v)
    (h : callValue b levels below (if below = 0 then some tag else none) called
      (argumentValues b levels (evaluateAt b levels) document inner (below + 1)) = .ok v) :
    AllScalars IsFinite v := by
  unfold callValue at h
  split at h
  · cases h
  · obtain ⟨f, known, h⟩ := Outcome.exists_of_bind_eq_ok h
    obtain ⟨vs, given, h⟩ := Outcome.exists_of_bind_eq_ok h
    have performs : Performs b ⟨levels + 1, .scalar expression, document⟩
        (.call f (if below = 0 then some tag else none) vs) := .call calls within known given
    have plain (calculates : f.name ∈ Function.arithmetic) (s : String)
        (among : .text s ∈ Function.flatten vs) : ¬SpellsSpecial s :=
      fun special => stays.here (.call performs calculates among special)
    rw [standard] at known
    exact Registry.isFinite_of_invoke_standard known (values vs given) plain h

end Performed

variable {tag : Tag} {name : String} {arguments : List Argument}

mutual

/-- The value of an argument of a call is finite. -/
theorem isFinite_of_argumentValue (standard : b.functions = .standard)
    (finite : AllScalars IsFinite document)
    (stays : StaysFinite b ⟨levels + 1, .scalar expression, document⟩)
    (calls : Calls expression tag name arguments) (argument : Argument) (below : Nat)
    (within : Within (.call name arguments) argument (below + 1)) {v : Value}
    (h : argumentValue b levels (evaluateAt b levels) document argument (below + 1) = .ok v) :
    AllScalars IsFinite v := by
  cases argument with
  | path path => exact isFinite_of_read finite h
  | raw raw => exact isFinite_of_literalArgument h
  | call called inner =>
    have values := isFinite_of_argumentValues standard finite stays calls inner (below + 1)
      fun argument among => .argument within among
    have value := isFinite_of_callValue (v := v) stays standard calls within values
    rw [if_neg (Nat.succ_ne_zero below)] at value
    exact value h
  termination_by structural argument

/-- The values of arguments of a call are finite. -/
theorem isFinite_of_argumentValues (standard : b.functions = .standard)
    (finite : AllScalars IsFinite document)
    (stays : StaysFinite b ⟨levels + 1, .scalar expression, document⟩)
    (calls : Calls expression tag name arguments) (inner : List Argument) (below : Nat)
    (within : ∀ argument ∈ inner, Within (.call name arguments) argument (below + 1))
    (vs : List Value)
    (h : argumentValues b levels (evaluateAt b levels) document inner (below + 1) = .ok vs) :
    ∀ v ∈ vs, AllScalars IsFinite v := by
  cases inner with
  | nil =>
    cases h
    exact nofun
  | cons argument inner =>
    obtain ⟨here, others⟩ := List.forall_mem_cons.mp within
    obtain ⟨first, found, h⟩ := Outcome.exists_of_bind_eq_ok h
    obtain ⟨more, rest, h⟩ := Outcome.exists_of_bind_eq_ok h
    cases h
    exact List.forall_mem_cons.mpr
      ⟨isFinite_of_argumentValue standard finite stays calls argument below here found,
        isFinite_of_argumentValues standard finite stays calls inner below others more rest⟩
  termination_by structural inner

end

/-- The value of an expression is finite. -/
theorem isFinite_of_scalarValue (standard : b.functions = .standard)
    (finite : AllScalars IsFinite document)
    (stays : StaysFinite b ⟨levels + 1, .scalar expression, document⟩)
    (h : scalarValue b levels (evaluateAt b levels) expression document = .ok v) :
    AllScalars IsFinite v := by
  unfold scalarValue at h
  split at h
  · cases h
  · next word body split =>
    split at h
    · cases h
    · next tag known =>
      have tagged : ∃ word, splitTag? expression.toList = some (word, body) ∧
          Tag.ofWord? (String.ofList word) = some tag := ⟨word, split, known⟩
      -- one case for each way to a value
      split at h
      · cases h
      · next path rest tokenized =>
        exact isFinite_of_fromPath stays finite ⟨tagged, tokenized⟩ h
      · next name rest tokenized =>
        obtain ⟨arguments, rfl⟩ := Expression.exists_call tokenized
        have calls : Calls expression tag name arguments := ⟨body, tagged, tokenized⟩
        have values := isFinite_of_argumentValues standard finite stays calls arguments 0
          fun argument among => .argument .call among
        rw [runCall_flattenAll] at h
        obtain ⟨⟨value, left⟩, run, rfl⟩ := Outcome.exists_of_map_eq_ok h
        obtain ⟨value, called, same⟩ := Outcome.exists_of_map_eq_ok run
        cases same
        exact isFinite_of_callValue stays standard calls .call values called
      · next tokens noPath noCall tokenized =>
        have literal : IsLiteral tokens := by
          unfold IsLiteral
          split
          · exact noPath _ _ rfl
          · exact noCall _ _ rfl
          · trivial
        exact isFinite_of_fromLiteral stays ⟨tagged, tokenized⟩ literal h

end Expressions

section Levels

variable {b : Builder} {levels : Nat} {document : Value}

/-- Evaluations with some number of levels give finite values of finite documents if they stay
finite. -/
def GivesFinite (b : Builder) (levels : Nat) : Prop :=
  ∀ schema document v, AllScalars IsFinite document → StaysFinite b ⟨levels, schema, document⟩ →
    evaluateAt b levels 0 schema document = .ok v → AllScalars IsFinite v

/-- The values of a list part are finite: each item is a finite document of its own. -/
theorem isFinite_of_partValues (finite : AllScalars IsFinite document) {schema element : Schema}
    {path : String} (part : IsPart schema path element)
    (stays : StaysFinite b ⟨levels + 1, schema, document⟩) (below : GivesFinite b (levels - 1))
    {vs : List Value} (h : partValues (evaluateAt b levels 1) document path element = .ok vs) :
    ∀ v ∈ vs, AllScalars IsFinite v := by
  intro v among
  obtain ⟨items, found, h⟩ := Outcome.exists_of_bind_eq_ok h
  obtain ⟨item, itemAmong, given⟩ := Outcome.exists_of_mem_mapM h among
  obtain ⟨own, detached, given⟩ := Outcome.exists_of_bind_eq_ok given
  obtain ⟨source, read, inside⟩ := exists_of_mem_partItems found itemAmong
  have itemFinite := Value.allScalars_of_mem_elements (isFinite_of_read finite read) inside
  have ownFinite := isFinite_of_detach itemFinite detached
  rw [evaluateAt_skip] at given
  exact below element own v ownFinite (stays.step (.item part found itemAmong detached)) given

/-- A schema whose own level is allowed gives a finite value. -/
theorem isFinite_of_step (standard : b.functions = .standard)
    (finite : AllScalars IsFinite document) (deeper : ∀ levels' ≤ levels, GivesFinite b levels')
    {schema : Schema} (stays : StaysFinite b ⟨levels + 1, schema, document⟩) {v : Value}
    (h : step b levels (evaluateAt b levels) schema document = .ok v) :
    AllScalars IsFinite v := by
  have part {path : String} {element : Schema} {vs : List Value}
      (part : IsPart schema path element)
      (given : partValues (evaluateAt b levels 1) document path element = .ok vs) :
      ∀ v ∈ vs, AllScalars IsFinite v :=
    isFinite_of_partValues finite part stays (deeper _ (Nat.sub_le _ _)) given
  cases schema with
  | scalar expression => exact isFinite_of_scalarValue standard finite stays h
  | object fields =>
    obtain ⟨members, found, h⟩ := Outcome.exists_of_bind_eq_ok h
    cases h
    refine Value.allScalars_ofList (Value.allMembers_iff.mpr fun member among => ?_)
    obtain ⟨field, fieldAmong, given⟩ := Outcome.exists_of_mem_mapM found among
    obtain ⟨child, value, same⟩ := Outcome.exists_of_bind_eq_ok given
    cases same
    exact ⟨⟨field.1, rfl⟩, deeper levels (Nat.le_refl levels) field.2 document child finite
      (stays.step (.field fieldAmong)) value⟩
  | arrayOf path element =>
    obtain ⟨vs, given, rfl⟩ := Outcome.exists_of_map_eq_ok h
    exact Value.allItems_iff.mpr (part .arrayOf given)
  | list parts =>
    obtain ⟨results, found, h⟩ := Outcome.exists_of_bind_eq_ok h
    cases h
    refine Value.allItems_iff.mpr fun item among => ?_
    obtain ⟨vs, result, inside⟩ := List.mem_flatten.mp among
    obtain ⟨listed, partAmong, given⟩ := Outcome.exists_of_mem_mapM found result
    exact part (.list partAmong) given item inside
  | unsupported kind => cases h

/-- Whatever the number of levels, evaluations that stay finite give finite values. -/
theorem givesFinite (standard : b.functions = .standard) (levels : Nat) :
    GivesFinite b levels := by
  -- Arguments and items skip levels, so the hypothesis is needed for all lower ones.
  induction levels using Nat.strongRecOn with
  | ind levels ih =>
    intro schema document v finite stays h
    cases levels with
    | zero => cases h
    | succ levels =>
      exact isFinite_of_step standard finite (fun levels' le => ih levels' (Nat.lt_succ_of_le le))
        stays h

end Levels

/-- Building makes an infinite or undefined number: the schema compiles, and an evaluation that is
reached makes one. -/
def MakesSpecialIn (b : Builder) (schema document : Value) : Prop :=
  ∃ compiled e, Schema.compile schema = .ok compiled ∧
    Evaluation.Reaches ⟨b.levels, compiled, document⟩ e ∧ MakesSpecial b e

/-- A value built from a finite document is written as standard JSON, or building makes an infinite
or undefined number. -/
theorem isStandard_of_build {b : Builder} (standard : b.functions = .standard)
    {schema document v : Value} (finite : AllScalars IsFinite document)
    (built : b.build schema document = .ok v) {layout : Json.Layout} {out : String}
    (written : Json.write layout v = .ok out) :
    Json.IsStandard out ∨ MakesSpecialIn b schema document := by
  by_cases special : MakesSpecialIn b schema document
  · exact .inr special
  · obtain ⟨compiled, found, given⟩ := Outcome.exists_of_bind_eq_ok built
    have stays : StaysFinite b ⟨b.levels, compiled, document⟩ :=
      fun e reaches makes => special ⟨compiled, e, found, reaches, makes⟩
    have result := givesFinite standard b.levels compiled document v finite stays given
    exact .inl (Json.isStandard_of_write result written)

/-- What is written of a value built with the standard functions from a document of standard JSON,
taken as the document itself or as a plain value that becomes a document first. The text is standard
JSON again, unless building makes an infinite or undefined number: of a text that is cast to number,
of a number literal, of a literal that is read as JSON, or of a text that a function casts before it
calculates or compares. Nothing else makes such a number, at any level of any schema. -/
theorem isStandard_of_build_standard {text : String} (standard : Json.IsStandard text)
    {document : Value} (read : Json.read text = .ok document) (limit : Int) (schema : Value)
    {v : Value} {layout : Json.Layout} {out : String} (written : Json.write layout v = .ok out) :
    let b : Builder := ⟨.standard, limit⟩
    (b.build schema document = .ok v →
      Json.IsStandard out ∨ MakesSpecialIn b schema document) ∧
    (b.buildPlain schema document = .ok v →
      Json.IsStandard out ∨ ∃ own, detach document = .ok own ∧ MakesSpecialIn b schema own) := by
  intro b
  have finite := Json.allScalars_of_isStandard standard read
  refine ⟨fun built => isStandard_of_build rfl finite built written, fun built => ?_⟩
  obtain ⟨own, detached, built⟩ := Outcome.exists_of_bind_eq_ok built
  have ownFinite := isFinite_of_detach finite detached
  rcases isStandard_of_build rfl ownFinite built written with standard | special
  · exact .inl standard
  · exact .inr ⟨own, detached, special⟩

/-- No text with a word for a number is standard. -/
theorem not_isStandard_infinity : ¬Json.IsStandard "-Infinity" := by
  intro standard
  have read : Json.read "-Infinity" = .ok (.binary (.infinite true)) := rfl
  exact Json.allScalars_of_isStandard standard read

/-- The text of a member is cast to an infinity. -/
theorem isStandard_of_build_standard_infinity :
    let document : Value := .object [(.text "a", .text "-inf")]
    Json.IsStandard "\x7b\"a\": \"-inf\"\x7d" ∧
    Json.read "\x7b\"a\": \"-inf\"\x7d" = .ok document ∧
    (⟨.standard, 100⟩ : Builder).build (.text "num $.a") document =
      .ok (.decimal (.infinite true)) ∧
    Json.write .spaced (.decimal (.infinite true)) = .ok "-Infinity" ∧
    MakesSpecialIn ⟨.standard, 100⟩ (.text "num $.a") document := by
  intro document
  have finite : AllScalars IsFinite document :=
    ⟨List.pairwise_singleton _ _, ⟨_, rfl⟩, trivial, trivial⟩
  have spelled : Json.write .spaced document = .ok "\x7b\"a\": \"-inf\"\x7d" := rfl
  have standard := Json.isStandard_of_write finite spelled
  have formed : AllScalars Json.HasForm document :=
    ⟨List.pairwise_singleton _ _, ⟨_, rfl⟩, trivial, trivial⟩
  have read : Json.read "\x7b\"a\": \"-inf\"\x7d" = .ok document :=
    Json.read_write_of_hasForm formed spelled
  have built : (⟨.standard, 100⟩ : Builder).build (.text "num $.a") document =
      .ok (.decimal (.infinite true)) := rfl
  have written : Json.write .spaced (.decimal (.infinite true)) = .ok "-Infinity" := rfl
  refine ⟨standard, read, built, written, ?_⟩
  rcases (isStandard_of_build_standard standard read 100 (.text "num $.a") written).1 built with
    word | special
  · exact absurd word not_isStandard_infinity
  · exact special

/-- A number literal is cast to the undefined number, which is written as a word. -/
theorem not_isStandard_of_build :
    Json.IsStandard "\x7b\x7d" ∧ Json.read "\x7b\x7d" = .ok (.object []) ∧
    (⟨.standard, 100⟩ : Builder).build (.text "num NaN") (.object []) =
      .ok (.decimal (.undefined false false 0)) ∧
    Json.write .spaced (.decimal (.undefined false false 0)) = .ok "NaN" ∧
    ¬Json.IsStandard "NaN" := by
  have empty : Json.write .spaced (.object []) = .ok "\x7b\x7d" := rfl
  have finite : AllScalars IsFinite (.object []) := ⟨List.Pairwise.nil, trivial⟩
  have read : Json.read "NaN" = .ok (.binary .undefined) := rfl
  exact ⟨Json.isStandard_of_write finite empty, rfl, rfl, rfl,
    fun standard => Json.allScalars_of_isStandard standard read⟩

end Stencil.Builder
