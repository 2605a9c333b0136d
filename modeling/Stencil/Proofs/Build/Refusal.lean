import Stencil.Proofs.Build.Nest
import Stencil.Proofs.Build.Operation
import Stencil.Proofs.Build.Splice
import Stencil.Proofs.Function.Result
import Stencil.Proofs.Json.Failure
import Stencil.Proofs.Schema.Form

/-!
# Problems with a schema

Which problems with a compiled schema an evaluation can report. None of the operations on values
reports any, and neither do the standard functions. What is left are an expression without its tag
or its body, a level below the limit, which only a schema that nests as deep can reach, and data of
an unknown kind, which no clean schema holds.

Compiling is defined exactly on the data that describes a schema and refuses everything else as a
problem with the schema. The compiled schema holds all of the data but what stands under the
reserved key outside of lists, and evaluating it never meets a node of an unknown kind.
-/

namespace Stencil

open Outcome (FailsOnly)

/-- A failure that is no problem with a schema. -/
def Failure.IsApart (failure : Failure) : Prop := ¬Schema.IsProblem failure

/-- A breakdown is no problem with a schema. -/
theorem Failure.isApart_defect (d : Defect) : IsApart (.defect d) := by
  rintro ⟨_, ⟨⟩⟩

section Operations

/-- A decimal operation reports no problem with a schema. -/
theorem isApart_ofTrap {α : Type} (x : Except Decimal.Trap α) :
    FailsOnly Failure.IsApart (Outcome.ofTrap x) := by
  cases x with
  | error trap => exact .error (Failure.isApart_defect _)
  | ok a => exact .ok a

/-- A path query reports no problem with a schema. -/
theorem isApart_read (document : Value) (path : String) :
    FailsOnly Failure.IsApart (Path.read document path) := by
  refine (Path.failsOnly_read document path).mono ?_
  rintro failure (⟨_, rfl⟩ | ⟨_, rfl⟩) ⟨_, ⟨⟩⟩

/-- Reading JSON reports no problem with a schema. -/
theorem isApart_readJson (text : String) : FailsOnly Failure.IsApart (Json.read text) := by
  refine (Json.failsOnly_read text).mono ?_
  rintro failure (⟨_, rfl⟩ | ⟨_, -, rfl⟩) ⟨_, ⟨⟩⟩

/-- What fails only by a breakdown reports no problem with a schema. -/
theorem isApart_of_breaksOnly {α : Type} {x : Outcome α}
    (breaks : FailsOnly Failure.IsBreakdown x) : FailsOnly Failure.IsApart x := by
  refine breaks.mono ?_
  rintro failure ⟨d, rfl⟩
  exact Failure.isApart_defect d

/-- A document of its own is made without a problem with a schema. -/
theorem isApart_detach (v : Value) : FailsOnly Failure.IsApart (Builder.detach v) :=
  (isApart_of_breaksOnly (Json.breaksOnly_write .spaced v)).bind isApart_readJson

/-- Making a text of a value reports no problem with a schema. -/
theorem isApart_toText (v : Value) : FailsOnly Failure.IsApart v.toText := by
  cases v with
  | int n => exact (isApart_of_breaksOnly (Json.breaksOnly_intChars n)).map String.ofList
  | list items => exact (isApart_of_breaksOnly (Json.breaksOnly_writeChars .compact _)).map _
  | object members => exact (isApart_of_breaksOnly (Json.breaksOnly_writeChars .compact _)).map _
  | set | pair =>
    unfold Value.toText
    dsimp only
    split
    · exact .error (Failure.isApart_defect _)
    · exact .ok _
  | _ => exact .ok _

/-- A refused cast reports the value. -/
theorem isApart_castFailure {α : Type} (v : Value) (kind : Kind) :
    FailsOnly Failure.IsApart (castFailure v kind : Outcome α) := by
  unfold castFailure
  split
  · exact .error (Failure.isApart_defect _)
  · exact .error (by rintro ⟨_, ⟨⟩⟩)

/-- A cast reports no problem with a schema. -/
theorem isApart_cast (v : Value) (kind : Kind) : FailsOnly Failure.IsApart (cast v kind) := by
  cases kind with
  | string => exact (isApart_toText v).map _
  | integer =>
    unfold cast castInteger
    cases v with
    | int n => exact .ok _
    | text | decimal | binary =>
      dsimp only
      split
      · exact .ok _
      · exact isApart_castFailure _ _
    | _ => exact isApart_castFailure _ _
  | number =>
    unfold cast castNumber
    cases v with
    | decimal d => exact .ok _
    | int n =>
      dsimp only
      split
      · exact .error (Failure.isApart_defect _)
      · exact .ok _
    | text | binary =>
      dsimp only
      split
      · exact .ok _
      · exact isApart_castFailure _ _
    | _ => exact isApart_castFailure _ _
  | boolean =>
    unfold cast castBoolean
    cases v with
    | decimal d => exact (isApart_ofTrap _).map _
    | bool | int | binary | text => exact .ok _
    | _ => exact isApart_castFailure _ _
  | object => exact .ok v

/-- The cast of an item reports no problem with a schema. -/
theorem isApart_castItem (kind : Kind) (v : Value) :
    FailsOnly Failure.IsApart (castItem kind v) := by
  cases v with
  | null => exact .ok _
  | _ => exact isApart_cast _ kind

/-- The cast to a list reports no problem with a schema. -/
theorem isApart_castList (v : Value) (kind : Kind) :
    FailsOnly Failure.IsApart (castList v kind) :=
  (FailsOnly.mapM (isApart_castItem kind) _).map _

end Operations

namespace Function

/-- Casting items reports no problem with a schema. -/
theorem isApart_castItems (items : List Value) (tag : Tag) :
    FailsOnly Failure.IsApart (castItems items tag) := by
  refine FailsOnly.mapM (fun v => ?_) items
  unfold castTo
  cases tag with
  | one kind => exact isApart_cast v kind
  | many kind =>
    dsimp only
    split
    · exact .error (Failure.isApart_defect _)
    · exact .error (by rintro ⟨_, ⟨⟩⟩)

/-- Adding items reports no problem with a schema. -/
theorem isApart_total (start : Value) (items : List Value) :
    FailsOnly Failure.IsApart (total start items) := by
  refine .foldlM_of_forall (fun a b => ?_) items start
  unfold addValues
  split
  · exact .ok _
  · exact (isApart_ofTrap _).map _
  · exact (isApart_ofTrap _).map _
  · exact (isApart_ofTrap _).map _
  · exact .error (Failure.isApart_defect _)

/-- Comparing numbers reports no problem with a schema. -/
theorem isApart_lessValue (a b : Value) : FailsOnly Failure.IsApart (lessValue a b) := by
  unfold lessValue
  split
  · exact .ok _
  · exact isApart_ofTrap _
  · exact isApart_ofTrap _
  · exact isApart_ofTrap _
  · exact .error (Failure.isApart_defect _)

/-- Choosing the best item reports no problem with a schema if no comparison does. -/
theorem isApart_pick {better : Value → Value → Outcome Bool}
    (compares : ∀ a b, FailsOnly Failure.IsApart (better a b)) (items : List Value) :
    FailsOnly Failure.IsApart (pick better items) := by
  cases items with
  | nil => exact .ok _
  | cons first rest =>
    exact .foldlM_of_forall
      (fun best item => (compares item best).bind fun wins => .ok _) rest first

end Function

namespace Registry

/-- The functions of a registry report no problem with a schema. -/
def IsApart (registry : Registry) : Prop :=
  ∀ f ∈ registry.functions, ∀ requested arguments,
    FailsOnly Failure.IsApart (f.apply requested arguments)

/-- The standard functions report none. -/
theorem isApart_standard : standard.IsApart := by
  intro f among requested arguments
  rw [functions_standard] at among
  simp only [builtins, List.mem_cons, List.not_mem_nil, or_false] at among
  rcases among with rfl | rfl | rfl | rfl | rfl | rfl
  · exact (Function.isApart_castItems _ _).bind fun items => Function.isApart_total _ _
  · exact (Function.isApart_castItems _ _).bind fun items =>
      Function.isApart_pick Function.isApart_lessValue items
  · exact (Function.isApart_castItems _ _).bind fun items =>
      Function.isApart_pick (fun item best => Function.isApart_lessValue best item) items
  · refine (Function.isApart_castItems _ _).bind fun items => ?_
    split
    · exact .ok _
    · refine (Function.isApart_total _ _).bind fun sum => ?_
      split
      · exact (isApart_ofTrap _).map _
      · exact .error (Failure.isApart_defect _)
  · exact .ok _
  · exact (FailsOnly.mapM isApart_toText _).bind fun parts => .ok _

/-- Looking up a function reports no problem with a schema. -/
theorem isApart_get (registry : Registry) (name : String) :
    FailsOnly Failure.IsApart (registry.get name) := by
  unfold get
  split
  · exact .ok _
  · exact .error (by rintro ⟨_, ⟨⟩⟩)

/-- Calling a function reports no problem with a schema. -/
theorem IsApart.invoke {registry : Registry} (apart : registry.IsApart) {name : String}
    {f : Function} (found : registry.get name = .ok f) (requested : Option Tag)
    (arguments : List Value) : FailsOnly Failure.IsApart (f.invoke requested arguments) := by
  obtain ⟨among, -⟩ := of_get_eq_ok found
  exact Builder.failsOnly_invoke (fun tag => by rintro ⟨_, ⟨⟩⟩) (by rintro ⟨_, ⟨⟩⟩)
    (apart f among requested arguments)

end Registry

namespace Builder

open Expression (Argument)

/-- A failure that reports no other problems with a schema than these: an expression lacks its tag
or its body, a level is too deep, and a node is of an unknown kind. The last two are only reported
under the given conditions. -/
inductive Refusal (b : Builder) (deep mixed : Prop) : Failure → Prop
  /-- Something else has failed. -/
  | apart {failure : Failure} : failure.IsApart → Refusal b deep mixed failure
  /-- An expression without its tag or its body. -/
  | expression (text : String) : Refusal b deep mixed (.error (.schema (.expression text)))
  /-- A level below the limit. -/
  | tooDeep : deep → Refusal b deep mixed (.error (.schema (.tooDeep b.maxDepth)))
  /-- A node of an unknown kind. -/
  | node (kind : String) : mixed → Refusal b deep mixed (.error (.schema (.unsupportedNode kind)))

/-- Weaker conditions. -/
theorem Refusal.mono {b : Builder} {deep deep' mixed mixed' : Prop} (deeper : deep → deep')
    (more : mixed → mixed') (failure : Failure) (h : Refusal b deep mixed failure) :
    Refusal b deep' mixed' failure := by
  cases h with
  | apart other => exact .apart other
  | expression text => exact .expression text
  | tooDeep below => exact .tooDeep (deeper below)
  | node kind unknown => exact .node kind (more unknown)

section

variable {b : Builder} {deep mixed : Prop}

/-- What fails apart from schemas is covered. -/
theorem refusal_of_isApart {α : Type} {x : Outcome α} (h : FailsOnly Failure.IsApart x) :
    FailsOnly (Refusal b deep mixed) x :=
  h.mono fun _ other => .apart other

/-- The refusal of a level is covered where it is deep. -/
theorem refusal_tooDeep {α : Type} (below : deep) :
    FailsOnly (Refusal b deep mixed) (b.tooDeep : Outcome α) :=
  .error (.tooDeep below)

/-- A text with spans is refused as one of its spans is. -/
theorem refusal_interpolate {evaluate : Evaluator} {document : Value} {text : String}
    (spans : ∀ body, .span body ∈ Expression.pieces text.toList →
      FailsOnly (Refusal b deep mixed) (evaluate (.scalar (String.ofList body)) document)) :
    FailsOnly (Refusal b deep mixed) (interpolate evaluate document text) := by
  refine FailsOnly.bind (.mapM_of_mem fun piece among => ?_) fun parts => .ok _
  cases piece with
  | char c => exact .ok _
  | span body =>
    exact (spans body among).bind fun v =>
      (refusal_of_isApart (isApart_toText v)).bind fun text => .ok _

/-- A literal argument is refused as one of its spans is. -/
theorem refusal_literalArgument {evaluate : Evaluator} {document : Value} {raw : String}
    (spans : ∀ body, .span body ∈ Expression.pieces raw.toList →
      FailsOnly (Refusal b deep mixed) (evaluate (.scalar (String.ofList body)) document)) :
    FailsOnly (Refusal b deep mixed) (literalArgument evaluate document raw) := by
  unfold literalArgument
  dsimp only
  split
  · exact .ok _
  · split
    · exact .ok _
    · split
      · exact .ok _
      · exact (refusal_interpolate spans).map _

end

section Evaluating

variable {b : Builder}

/-- With this many levels, a schema is refused as too deep only if it goes down as far, and as
unknown only if it is not clean. -/
def RefusesOnly (b : Builder) (levels : Nat) : Prop :=
  ∀ schema document, FailsOnly (Refusal b (levels ≤ schema.nest) (¬schema.IsClean))
    (evaluateAt b levels 0 schema document)

/-- An expression is clean. -/
theorem RefusesOnly.scalar {levels : Nat} (h : RefusesOnly b levels) {deep : Prop}
    {body : List Char} (deeper : levels ≤ Expression.nest body → deep) (document : Value) :
    FailsOnly (Refusal b deep False)
      (evaluateAt b levels 0 (.scalar (String.ofList body)) document) := by
  refine (h _ document).mono (Refusal.mono (fun below => deeper ?_) fun unclean => ?_)
  · rwa [Schema.nest, String.toList_ofList] at below
  · exact unclean (.scalar _)

/-- A call with some calls around it is refused as too deep only if it goes down as far. -/
theorem refusal_callValue (apart : b.functions.IsApart) {levels outer : Nat} {deep : Prop}
    (requested : Option Tag) (name : String) {values : Outcome (List Value)}
    (tooFar : levels ≤ outer → deep) (arguments : FailsOnly (Refusal b deep False) values) :
    FailsOnly (Refusal b deep False) (callValue b levels outer requested name values) := by
  unfold callValue
  split
  · next far => exact refusal_tooDeep (tooFar far)
  · refine FailsOnly.bind_of_ok (refusal_of_isApart (b.functions.isApart_get name))
      fun function found => ?_
    exact arguments.bind fun vs => refusal_of_isApart (apart.invoke found requested vs)

section Levels

variable {levels : Nat}

/-- A literal argument is refused as too deep only if its spans go down as far. -/
theorem refusal_raw (below : ∀ fewer ≤ levels, RefusesOnly b fewer) (raw : String) (outer : Nat)
    (document : Value) :
    FailsOnly (Refusal b (levels < outer + (Argument.raw raw).nest Expression.nest) False)
      (literalArgument (evaluateAt b levels outer) document raw) := by
  refine refusal_literalArgument fun body among => ?_
  rw [evaluateAt_skip]
  refine (below (levels - outer) (Nat.sub_le levels outer)).scalar (fun deep => ?_) document
  have inside : Expression.nest body < Expression.spansNest Expression.nest _ :=
    Expression.nest_lt_spansNest among
  rw [Argument.nest]
  omega

mutual

/-- An argument with some calls around it is refused as too deep only if it goes down as far. -/
theorem refusal_argumentValue (apart : b.functions.IsApart)
    (below : ∀ fewer ≤ levels, RefusesOnly b fewer) (document : Value) (argument : Argument)
    (outer : Nat) :
    FailsOnly (Refusal b (levels < outer + argument.nest Expression.nest) False)
      (argumentValue b levels (evaluateAt b levels) document argument outer) := by
  cases argument with
  | path path => exact refusal_of_isApart (isApart_read document path)
  | raw raw => exact refusal_raw below raw outer document
  | call name arguments =>
    rw [Argument.nest]
    refine refusal_callValue apart none name (fun far => by omega) ?_
    refine (refusal_argumentValues apart below document arguments (outer + 1)).mono
      (Refusal.mono (fun deep => by omega) id)
  termination_by structural argument

/-- The same of several arguments. -/
theorem refusal_argumentValues (apart : b.functions.IsApart)
    (below : ∀ fewer ≤ levels, RefusesOnly b fewer) (document : Value)
    (arguments : List Argument) (outer : Nat) :
    FailsOnly (Refusal b (levels < outer + Argument.nestAll Expression.nest arguments) False)
      (argumentValues b levels (evaluateAt b levels) document arguments outer) := by
  cases arguments with
  | nil => exact .ok []
  | cons argument rest =>
    have first := refusal_argumentValue apart below document argument outer
    have others := refusal_argumentValues apart below document rest outer
    rw [Argument.nestAll]
    refine FailsOnly.bind (first.mono (Refusal.mono (fun deep => by omega) id)) fun v => ?_
    exact (others.mono (Refusal.mono (fun deep => by omega) id)).bind fun vs => .ok _
  termination_by structural arguments

end

/-- A literal is refused as too deep only if its spans go down as far. -/
theorem refusal_fromLiteral (below : RefusesOnly b levels) (tag : Tag) (body : List Char)
    (document : Value) {deep : Prop}
    (spans : tag = .one .string →
      levels < Expression.spansNest Expression.nest (Expression.pieces body) → deep) :
    FailsOnly (Refusal b deep False)
      (fromLiteral (evaluateAt b levels 0) tag document (String.ofList body)) := by
  have json : FailsOnly (Refusal b deep False) (jsonLiteral (String.ofList body)) := by
    refine refusal_of_isApart ?_
    unfold jsonLiteral
    split
    · exact .error (by rintro ⟨_, ⟨⟩⟩)
    · exact isApart_readJson _
  have casts (kind : Kind) :
      FailsOnly (Refusal b deep False) (cast (.text (String.ofList body)) kind) :=
    refusal_of_isApart (isApart_cast _ kind)
  cases tag with
  | many kind => exact json.bind fun v => refusal_of_isApart (isApart_castList v kind)
  | one kind =>
    cases kind with
    | string =>
      refine (refusal_interpolate fun inner among => ?_).map _
      rw [String.toList_ofList] at among
      refine below.scalar (fun far => spans rfl ?_) document
      exact Nat.lt_of_le_of_lt far (Expression.nest_lt_spansNest among)
    | object => exact json
    | integer => exact casts .integer
    | number => exact casts .number
    | boolean => exact casts .boolean

/-- A path expression reports no problem with a schema. -/
theorem isApart_fromPath (tag : Tag) (document : Value) (path : String) :
    FailsOnly Failure.IsApart (fromPath tag document path) := by
  rw [fromPath_eq]
  refine (isApart_read document path).bind fun v => ?_
  rcases fromFound_cases tag v with same | ⟨kind, -, same⟩ | ⟨w, -, same⟩
  · rw [same]
    exact .ok _
  · rw [same]
    exact isApart_castList v kind
  · rw [same]
    exact isApart_castItem _ w

/-- An expression whose own level is allowed is refused as too deep only if it goes down as far. -/
theorem refusal_scalarValue (apart : b.functions.IsApart)
    (below : ∀ fewer ≤ levels, RefusesOnly b fewer) (expression : String) (document : Value) :
    FailsOnly (Refusal b (levels < Expression.nest expression.toList) False)
      (scalarValue b levels (evaluateAt b levels) expression document) := by
  unfold scalarValue
  split
  · exact .error (.expression expression)
  · next word body split =>
    split
    · exact .error (.apart (by rintro ⟨_, ⟨⟩⟩))
    · next tag tagged =>
      rw [Expression.nest_of_tag split tagged]
      split
      · next e failed =>
        obtain ⟨problem, text, rfl⟩ := Expression.isSyntax_of_tokenize _ e failed
        exact .error (.apart (by rintro ⟨_, ⟨⟩⟩))
      · exact refusal_of_isApart (isApart_fromPath tag document _)
      · next name rest tokens =>
        obtain ⟨arguments, rfl⟩ := Expression.exists_call tokens
        rw [Expression.bodyNest_call tokens, runCall_flattenAll, Argument.nest]
        refine FailsOnly.map _ (FailsOnly.map _ ?_)
        refine refusal_callValue apart (some tag) name (fun far => by omega) ?_
        exact (refusal_argumentValues apart below document arguments 1).mono
          (Refusal.mono (fun deep => by omega) id)
      · next tokens noPath noCall tokenized =>
        refine refusal_fromLiteral (below levels (Nat.le_refl levels)) tag body document
          fun texts deep => ?_
        rwa [texts, Expression.bodyNest_literal tokenized noPath noCall]

/-- A list part is refused as its element is, two levels deeper. -/
theorem refusal_partValues (below : RefusesOnly b (levels - 1)) (document : Value) (path : String)
    (element : Schema) :
    FailsOnly (Refusal b (levels + 1 ≤ element.nest + 2) (¬element.IsClean))
      (partValues (evaluateAt b levels 1) document path element) := by
  have selects : FailsOnly Failure.IsApart (partItems document path) := by
    refine (isApart_read document path).bind fun v => ?_
    cases v <;> exact .ok _
  refine (refusal_of_isApart selects).bind fun items => FailsOnly.mapM (fun item => ?_) items
  refine (refusal_of_isApart (isApart_detach item)).bind fun own => ?_
  rw [evaluateAt_skip]
  exact (below element own).mono (Refusal.mono (fun deep => by omega) id)

/-- A schema whose own level is allowed is refused as the schemas inside of it are. -/
theorem refusal_step (apart : b.functions.IsApart)
    (below : ∀ fewer ≤ levels, RefusesOnly b fewer) (schema : Schema) (document : Value) :
    FailsOnly (Refusal b (levels + 1 ≤ schema.nest) (¬schema.IsClean))
      (step b levels (evaluateAt b levels) schema document) := by
  cases schema with
  | scalar expression =>
    exact (refusal_scalarValue apart below expression document).mono
      (Refusal.mono id fun unclean => unclean.elim)
  | object fields =>
    refine FailsOnly.bind (.mapM_of_mem fun field among => ?_) fun members => .ok _
    refine FailsOnly.bind (((below levels (Nat.le_refl levels)) field.2 document).mono
      (Refusal.mono (fun deep => ?_) fun unclean clean => ?_)) fun v => .ok _
    · have inside : field.2.nest + 1 ≤ _ := Schema.nest_le_innerNest among
      exact Nat.le_trans (Nat.succ_le_succ deep) inside
    · cases clean with
      | object names inner => exact unclean (inner field among)
  | arrayOf path element =>
    refine FailsOnly.map _ ((refusal_partValues (below _ (Nat.sub_le levels 1)) document path
      element).mono (Refusal.mono id fun _ clean => ?_))
    cases clean
  | list parts =>
    refine FailsOnly.bind (.mapM_of_mem fun part among => ?_) fun results => .ok _
    refine (refusal_partValues (below _ (Nat.sub_le levels 1)) document part.1 part.2).mono
      (Refusal.mono (fun deep => ?_) fun unclean clean => ?_)
    · exact Nat.le_trans deep (Schema.nest_le_innerNest among)
    · cases clean with
      | list objects inner => exact unclean (inner part among)
  | unsupported kind =>
    refine .error (.node kind fun clean => ?_)
    cases clean

/-- Whatever the number of levels, a schema is refused as too deep only if it goes down as far. -/
theorem refusesOnly (apart : b.functions.IsApart) (levels : Nat) : RefusesOnly b levels := by
  -- calls and list parts skip levels, so the induction is a strong one
  induction levels using Nat.strongRecOn with
  | ind levels ih =>
    cases levels with
    | zero => exact fun schema document => refusal_tooDeep (Nat.zero_le _)
    | succ levels =>
      exact refusal_step apart fun fewer le => ih fewer (Nat.lt_succ_of_le le)

end Levels

end Evaluating

end Builder

end Stencil

namespace Stencil.Schema

open Json (IsOrdinary)
open Value (AllScalars)

/-- A clean schema is never refused as unknown, whatever the document. -/
theorem evaluate_ne_unsupportedNode (b : Builder) (apart : b.functions.IsApart) {schema : Schema}
    (clean : schema.IsClean) (document : Value) (kind : String) :
    b.evaluate schema document ≠ Outcome.schema (.unsupportedNode kind) := by
  intro refused
  cases Builder.refusesOnly apart b.levels schema document _ refused with
  | apart other => exact other ⟨_, rfl⟩
  | node _ unclean => exact unclean clean

/-- Compiling accepts exactly the data that describes a schema and refuses other data as a problem
with the schema. The accepted data can be read off the schema again: it is the same but for the
members under the reserved key, which are gone outside of lists and come first in the elements of
lists. In the schema no member is named by the reserved key, the parts of lists have objects as
elements, and it is never refused for a node of an unknown kind, unless a function reports that
itself, which none of the standard functions does. -/
theorem compile_eq_ok_iff_isSchema (v : Value) (json : AllScalars IsOrdinary v) :
    ((∃ schema, compile v = .ok schema) ↔ IsSchema v) ∧
    (¬IsSchema v → ∃ problem, compile v = Outcome.schema problem) ∧
    (∀ schema, compile v = .ok schema →
      schema.data? = some (stripped v) ∧ schema.IsClean ∧
      ∀ b : Builder, b.functions.IsApart → ∀ document kind,
        b.evaluate schema document ≠ Outcome.schema (.unsupportedNode kind)) ∧
    Registry.standard.IsApart := by
  refine ⟨⟨?_, exists_compile v json⟩, fun noSchema => ?_, fun schema compiled => ?_,
    Registry.isApart_standard⟩
  · rintro ⟨schema, compiled⟩
    exact (describes_of_compile v json compiled).isSchema
  · cases h : compile v with
    | ok schema => exact absurd (describes_of_compile v json h).isSchema noSchema
    | error failure =>
      obtain ⟨problem, rfl⟩ := (isRefused_of_compile json failure h).isProblem
      exact ⟨problem, rfl⟩
  · have describes := describes_of_compile v json compiled
    exact ⟨describes.data, describes.isClean, fun b apart document kind =>
      evaluate_ne_unsupportedNode b apart describes.isClean document kind⟩

/-- An object drops its member under the reserved key, though it is no schema; a list inside of it
keeps the path, which moves to the front. -/
theorem compile_eq_ok_iff_isSchema_lines :
    let element : Value := .object [(.text "sku", .text "str $.sku"),
      (.text pathKey, .text "$.items[*]")]
    let v : Value := .object [(.text pathKey, .int 1), (.text "lines", .list [element])]
    AllScalars IsOrdinary v ∧ IsSchema v ∧ ∃ schema, compile v = .ok schema ∧
      schema.data? = some (.object [(.text "lines", .list [.object [
        (.text pathKey, .text "$.items[*]"), (.text "sku", .text "str $.sku")]])]) := by
  intro element v
  have distinct : Fields.AreDistinct [(Key.text pathKey, Value.int 1),
      (.text "lines", .list [element])] := by
    simp [Fields.AreDistinct, Key.same_text, pathKey]
  have distinctInside : Fields.AreDistinct [(Key.text "sku", Value.text "str $.sku"),
      (.text pathKey, .text "$.items[*]")] := by
    simp [Fields.AreDistinct, Key.same_text, pathKey]
  have json : AllScalars IsOrdinary v :=
    ⟨distinct, ⟨_, rfl⟩, trivial, ⟨_, rfl⟩,
      ⟨⟨distinctInside, ⟨_, rfl⟩, trivial, ⟨_, rfl⟩, trivial, trivial⟩, trivial⟩, trivial⟩
  obtain ⟨accepts, -, keeps, -⟩ := compile_eq_ok_iff_isSchema v json
  have compiled : compile v = .ok (.object [("lines", .list [("$.items[*]",
      .object [("sku", .scalar "str $.sku")])])]) := by rfl
  exact ⟨json, accepts.mp ⟨_, compiled⟩, _, compiled, (keeps _ compiled).1⟩

end Stencil.Schema
