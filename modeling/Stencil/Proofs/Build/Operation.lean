import Stencil.Proofs.Build.Kept
import Stencil.Proofs.Json.Failure

/-!
# What an evaluation performs

An evaluation of a schema goes on to members, to items of list parts and to spans, and performs
operations of its own: it runs path queries, reads literals as JSON, casts values, copies them,
makes texts of them, and calls functions. Each kind of operation fails with an error for the caller
or breaks down in ways of its own.
-/

namespace Stencil.Builder

open Expression (Argument Token)
open Json (HasForm IsKept)
open Outcome (FailsOnly)
open Value (AllScalars)

section Expressions

/-- An expression as it is read: its tag, the text after the tag, and the tokens of that text. -/
structure Reads (expression : String) (tag : Tag) (body : List Char) (tokens : List Token) :
    Prop where
  /-- The tag is named by the word before the text. -/
  tagged : ∃ word, splitTag? expression.toList = some (word, body) ∧
    Tag.ofWord? (String.ofList word) = some tag
  /-- The tokens are those of the text. -/
  tokenized : Expression.tokenize (String.ofList body) = .ok tokens

/-- Tokens of a literal: neither a path nor a call comes first. -/
def IsLiteral : List Token → Prop
  | .path _ :: _ => False
  | .call _ :: _ => False
  | _ => True

/-- A tag for which a literal is read as JSON. -/
def ReadsJson : Tag → Prop
  | .one kind => kind = .object
  | .many _ => True

/-- An expression calls a function with arguments. -/
def Calls (expression : String) (tag : Tag) (name : String) (arguments : List Argument) : Prop :=
  ∃ body, Reads expression tag body (Argument.call name arguments).flatten

/-- A call or an argument inside of a call, with the number of calls around it. -/
inductive Within (call : Argument) : Argument → Nat → Prop
  /-- The call itself. -/
  | call : Within call call 0
  /-- An argument of a call that is found there. -/
  | argument {name : String} {arguments : List Argument} {argument : Argument} {below : Nat} :
    Within call (.call name arguments) below → argument ∈ arguments →
    Within call argument (below + 1)

/-- A text of an expression that may hold spans, and the levels that are allowed for them. -/
inductive HasText (levels : Nat) (expression : String) : String → Nat → Prop
  /-- A literal for a text. -/
  | literal {body : List Char} {tokens : List Token} :
    Reads expression (.one .string) body tokens → IsLiteral tokens →
    HasText levels expression (String.ofList body) levels
  /-- A literal among the arguments of a call. -/
  | argument {tag : Tag} {name raw : String} {arguments : List Argument} {below : Nat} :
    Calls expression tag name arguments → Within (.call name arguments) (.raw raw) below →
    HasText levels expression raw (levels - below)

end Expressions

section Evaluations

/-- A schema that is evaluated for a document, with the levels that are allowed from it on. -/
structure Evaluation where
  /-- How many levels are allowed. -/
  levels : Nat
  /-- The schema. -/
  schema : Schema
  /-- The document. -/
  document : Value

/-- A list part of a schema: the path that it iterates over and its element. -/
inductive IsPart : Schema → String → Schema → Prop
  /-- The only part. -/
  | arrayOf {path : String} {element : Schema} : IsPart (.arrayOf path element) path element
  /-- One of several parts. -/
  | list {parts : List (String × Schema)} {path : String} {element : Schema} :
    (path, element) ∈ parts → IsPart (.list parts) path element

/-- A path whose values a schema casts or goes through. -/
inductive Selects : Schema → String → Prop
  /-- An expression that is a path. -/
  | expression {expression path : String} {tag : Tag} {body : List Char} {rest : List Token} :
    Reads expression tag body (.path path :: rest) → Selects (.scalar expression) path
  /-- The path of a list part. -/
  | part {schema element : Schema} {path : String} :
    IsPart schema path element → Selects schema path

/-- An evaluation goes on to another one. -/
inductive Evaluation.Step : Evaluation → Evaluation → Prop
  /-- To a member of an object. -/
  | field {levels : Nat} {fields : List (String × Schema)} {document : Value}
    {field : String × Schema} : field ∈ fields →
    Step ⟨levels + 1, .object fields, document⟩ ⟨levels, field.2, document⟩
  /-- To an item of a list part, which is a document of its own. -/
  | item {levels : Nat} {schema element : Schema} {document item own : Value} {path : String}
    {items : List Value} : IsPart schema path element → partItems document path = .ok items →
    item ∈ items → detach item = .ok own →
    Step ⟨levels + 1, schema, document⟩ ⟨levels - 1, element, own⟩
  /-- To a span of a text. -/
  | span {levels deeper : Nat} {expression text : String} {document : Value} {body : List Char} :
    HasText levels expression text deeper → .span body ∈ Expression.pieces text.toList →
    Step ⟨levels + 1, .scalar expression, document⟩
      ⟨deeper, .scalar (String.ofList body), document⟩

/-- An evaluation leads to another one in any number of steps. -/
inductive Evaluation.Reaches : Evaluation → Evaluation → Prop
  /-- To itself. -/
  | refl (e : Evaluation) : Reaches e e
  /-- By a step and whatever that leads to. -/
  | head {e e' last : Evaluation} : Step e e' → Reaches e' last → Reaches e last

/-- The kind that a tag asks for, of a single result or of the items of a list. -/
def kindOf : Tag → Kind
  | .one kind => kind
  | .many kind => kind

/-- The values among what a path finds that are cast for a tag. -/
def castSources : Tag → Value → List Value
  | .one _, v => v.elements.take 1
  | .many _, v => v.elements

/-- What is cast for a single result is an element of what a path finds. -/
theorem mem_elements_of_mem_castSources {tag : Tag} {v w : Value} (among : w ∈ castSources tag v) :
    w ∈ v.elements := by
  cases tag with
  | one kind => exact List.mem_of_mem_take among
  | many kind => exact among

/-- The value of a path expression from what the path finds. -/
def fromFound (tag : Tag) : Value → Outcome Value
  | .null => Except.ok .null
  | v =>
    match tag with
    | .many kind => castList v kind
    | .one kind =>
      match v with
      | .list [] => Except.ok .null
      | .list (.null :: _) => Except.ok .null
      | .list (first :: _) => cast first kind
      | other => cast other kind

/-- A path expression runs its query first. -/
theorem fromPath_eq (tag : Tag) (document : Value) (path : String) :
    fromPath tag document path = (do fromFound tag (← Path.read document path)) := rfl

/-- A single result is the cast of the first value that the path finds, or null if there is none. -/
theorem fromFound_one (kind : Kind) (v : Value) :
    fromFound (.one kind) v = castItem kind (v.elements.head?.getD .null) := by
  cases v with
  | list items =>
    cases items with
    | nil => rfl
    | cons first rest => cases first <;> rfl
  | _ => rfl

/-- The value of a path expression is null, a cast of all that the path finds, or a cast of one of
the sources. -/
theorem fromFound_cases (tag : Tag) (v : Value) :
    fromFound tag v = .ok .null ∨
    (∃ kind, tag = .many kind ∧ fromFound tag v = castList v kind) ∨
    ∃ w ∈ castSources tag v, fromFound tag v = castItem (kindOf tag) w := by
  cases tag with
  | many kind =>
    cases v with
    | null => exact .inl rfl
    | _ => exact .inr (.inl ⟨kind, rfl, rfl⟩)
  | one kind =>
    cases first : v.elements.head? with
    | none =>
      refine .inl ?_
      rw [fromFound_one, first]
      rfl
    | some w =>
      obtain ⟨rest, split⟩ := List.head?_eq_some_iff.mp first
      refine .inr (.inr ⟨w, ?_, ?_⟩)
      · rw [castSources, split]
        exact List.mem_cons_self
      · rw [fromFound_one, first]
        rfl

/-- What an evaluation does besides going on to others. -/
inductive Operation where
  /-- Running a path query. -/
  | query (document : Value) (path : String)
  /-- Reading a literal as JSON. -/
  | parse (raw : String)
  /-- Casting a value. -/
  | cast (v : Value) (kind : Kind)
  /-- Making a value a document of its own. -/
  | copy (v : Value)
  /-- Making a text of a value. -/
  | text (v : Value)
  /-- Calling a function. -/
  | call (function : Function) (requested : Option Tag) (arguments : List Value)

namespace Operation

/-- What an operation gives. -/
def run : Operation → Outcome Value
  | .query document path => Path.read document path
  | .parse raw => jsonLiteral raw
  | .cast v kind => castItem kind v
  | .copy v => detach v
  | .text v => v.toText.map .text
  | .call function requested arguments => function.invoke requested arguments

/-- How an operation breaks down: a query by a number in it that is too long, or at a step that
cannot be run; a literal by a number that cannot be held; and what shows a value by something in it
that cannot be shown. -/
def BreaksBy : Operation → Defect → Prop
  | .query .., d => d = .value ∨ d = .unsupported
  | .parse _, d => d = .value ∨ d = .invalidOperation
  | .cast v _, d => IsUnshown v d
  | .copy v, d => IsUnshown v d
  | .text v, d => IsUnshown v d
  | .call function _ arguments, d => function.BreaksBy arguments d

end Operation

/-- An evaluation performs an operation itself. -/
inductive Performs (b : Builder) : Evaluation → Operation → Prop
  /-- The query of an expression or of a list part. -/
  | query {levels : Nat} {schema : Schema} {document : Value} {path : String} :
    Selects schema path →
    Performs b ⟨levels + 1, schema, document⟩ (.query document path)
  /-- The cast of a value that the path of an expression finds. -/
  | cast {levels : Nat} {expression path : String} {tag : Tag} {document v w : Value}
    {body : List Char} {rest : List Token} : Reads expression tag body (.path path :: rest) →
    Path.read document path = .ok v → w ∈ castSources tag v →
    Performs b ⟨levels + 1, .scalar expression, document⟩ (.cast w (kindOf tag))
  /-- The copy of an item of a list part. -/
  | copy {levels : Nat} {schema element : Schema} {document item : Value} {path : String}
    {items : List Value} : IsPart schema path element → partItems document path = .ok items →
    item ∈ items →
    Performs b ⟨levels + 1, schema, document⟩ (.copy item)
  /-- The query of a path among the arguments of a call. -/
  | argument {levels below : Nat} {expression name path : String} {tag : Tag} {document : Value}
    {arguments : List Argument} : Calls expression tag name arguments →
    Within (.call name arguments) (.path path) below →
    Performs b ⟨levels + 1, .scalar expression, document⟩ (.query document path)
  /-- A call or a call inside of it; only the outermost one gets a request. -/
  | call {levels below : Nat} {expression name called : String} {tag : Tag} {document : Value}
    {arguments inner : List Argument} {f : Function} {vs : List Value} :
    Calls expression tag name arguments →
    Within (.call name arguments) (.call called inner) below →
    b.functions.get called = .ok f →
    argumentValues b levels (evaluateAt b levels) document inner (below + 1) = .ok vs →
    Performs b ⟨levels + 1, .scalar expression, document⟩
      (.call f (if below = 0 then some tag else none) vs)
  /-- Reading a literal as JSON. -/
  | parse {levels : Nat} {expression : String} {tag : Tag} {document : Value} {body : List Char}
    {tokens : List Token} : Reads expression tag body tokens → IsLiteral tokens → ReadsJson tag →
    Performs b ⟨levels + 1, .scalar expression, document⟩ (.parse (String.ofList body))
  /-- The cast of an item of a literal. -/
  | item {levels : Nat} {expression : String} {kind : Kind} {document v w : Value}
    {body : List Char} {tokens : List Token} : Reads expression (.many kind) body tokens →
    IsLiteral tokens → Json.read (String.ofList body) = .ok v → w ∈ v.elements →
    Performs b ⟨levels + 1, .scalar expression, document⟩ (.cast w kind)
  /-- The text of a span's value. -/
  | text {levels deeper : Nat} {expression text : String} {document v : Value}
    {body : List Char} : HasText levels expression text deeper →
    .span body ∈ Expression.pieces text.toList →
    evaluateAt b deeper 0 (.scalar (String.ofList body)) document = .ok v →
    Performs b ⟨levels + 1, .scalar expression, document⟩ (.text v)

/-- A failure of an evaluation: an error for the caller, or the breakdown of an operation that is
performed on the way. -/
def FailsFrom (b : Builder) (e : Evaluation) : Failure → Prop :=
  Failure.IsErrorOr fun d => ∃ e' operation, e.Reaches e' ∧ Performs b e' operation ∧
    operation.run = Outcome.defect d ∧ operation.BreaksBy d

end Evaluations

section Operations

variable {b : Builder} {e : Evaluation} {document : Value}

/-- An evaluation fails where one that it goes on to does. -/
theorem FailsFrom.of_step {e' : Evaluation} (step : e.Step e') {failure : Failure}
    (h : FailsFrom b e' failure) : FailsFrom b e failure := by
  rcases h with error | ⟨d, ⟨last, operation, reaches, performs⟩, rfl⟩
  · exact .inl error
  · exact .inr ⟨d, ⟨last, operation, .head step reaches, performs⟩, rfl⟩

/-- An evaluation fails where an operation that it performs does. -/
theorem failsOnly_run {operation : Operation} (performs : Performs b e operation)
    (h : FailsOnly (Failure.IsErrorOr operation.BreaksBy) operation.run) :
    FailsOnly (FailsFrom b e) operation.run := by
  intro failure failed
  rcases h failure failed with error | ⟨d, breaks, rfl⟩
  · exact .inl error
  · exact .inr ⟨d, ⟨e, operation, .refl e, performs, failed, breaks⟩, rfl⟩

/-- A query fails with an error or breaks down. -/
theorem failsOnly_query {path : String} (performs : Performs b e (.query document path)) :
    FailsOnly (FailsFrom b e) (Path.read document path) := by
  refine failsOnly_run performs ((Path.failsOnly_read_kinds document path).mono ?_)
  rintro failure (rfl | rfl | ⟨text, rfl⟩)
  · exact .inr ⟨.value, .inl rfl, rfl⟩
  · exact .inr ⟨.unsupported, .inr rfl, rfl⟩
  · exact .inl ⟨_, rfl⟩

/-- A literal that is no JSON is refused with an error, and reading it may break down. -/
theorem failsOnly_parse {raw : String} (performs : Performs b e (.parse raw)) :
    FailsOnly (FailsFrom b e) (jsonLiteral raw) := by
  refine failsOnly_run performs ?_
  dsimp only [Operation.run, jsonLiteral]
  split
  · exact .error (.inl ⟨_, rfl⟩)
  · next noFault =>
    intro failure h
    rcases Json.failsOnly_read raw failure h with ⟨fault, rfl⟩ | ⟨d, kind, rfl⟩
    · exact absurd h (noFault fault)
    · exact .inr ⟨d, kind, rfl⟩

/-- A cast of a value that has a form fails with an error or cannot show the value. -/
theorem failsOnly_castValue {v : Value} (formed : AllScalars HasForm v) {kind : Kind}
    (performs : Performs b e (.cast v kind)) : FailsOnly (FailsFrom b e) (castItem kind v) :=
  failsOnly_run performs (failsOnly_castItem formed kind)

/-- A value that has a form becomes a document of its own unless it cannot be shown. -/
theorem failsOnly_detach {v : Value} (formed : AllScalars HasForm v) :
    FailsOnly (FailsShowing v) (detach v) := by
  have written := failsOnly_write .spaced (Json.allScalars_isOrdinary formed)
  refine written.bind_of_ok fun text spelled => ?_
  rw [Json.read_write_of_hasForm formed spelled]
  exact .ok _

/-- A text is made of a value that is read again once it is written, unless it cannot be shown. -/
theorem failsOnly_text {v : Value} (kept : AllScalars IsKept v)
    (performs : Performs b e (.text v)) : FailsOnly (FailsFrom b e) v.toText :=
  have ordinary := Json.allScalars_isOrdinary_of_isKept kept
  (failsOnly_run performs ((failsOnly_toText ordinary).map _)).of_map

/-- A call of a standard function fails with an error or breaks down. -/
theorem failsOnly_call (standard : b.functions = .standard) {name : String} {f : Function}
    (known : b.functions.get name = .ok f) {requested : Option Tag} {vs : List Value}
    (kept : ∀ v ∈ vs, AllScalars IsKept v) (performs : Performs b e (.call f requested vs)) :
    FailsOnly (FailsFrom b e) (f.invoke requested vs) := by
  rw [standard] at known
  exact failsOnly_run performs (Registry.failsOnly_invoke_standard known kept)

/-- The values that a list part goes through are elements of what its path finds. -/
theorem exists_of_mem_partItems {path : String} {items : List Value} {item : Value}
    (h : partItems document path = .ok items) (among : item ∈ items) :
    ∃ v, Path.read document path = .ok v ∧ item ∈ v.elements := by
  obtain ⟨v, read, h⟩ := Outcome.exists_of_bind_eq_ok h
  refine ⟨v, read, ?_⟩
  cases v <;> cases h <;> first | exact among | cases among

/-- The query of a list part fails with an error or breaks down. -/
theorem failsOnly_partItems {path : String} (performs : Performs b e (.query document path)) :
    FailsOnly (FailsFrom b e) (partItems document path) := by
  refine (failsOnly_query performs).bind fun v => ?_
  cases v <;> exact .ok _

end Operations

end Stencil.Builder
