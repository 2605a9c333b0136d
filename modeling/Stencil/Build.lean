import Stencil.Expression.Span
import Stencil.Expression.Token
import Stencil.Function.Registry
import Stencil.Json.Reader
import Stencil.Path.Select
import Stencil.Schema

/-!
# Building values from schemas

A schema is evaluated against a document. An expression is a type tag and a body: a path query, a
call, or a literal. Nested objects, list parts, calls and spans each lie a level deeper than what
holds them, and levels below the limit are refused. Items of a list part are evaluated against a
document of their own.
-/

namespace Stencil

/-- What expressions are evaluated with. -/
structure Builder where
  /-- The functions that expressions may call. -/
  functions : Registry := Registry.standard
  /-- The deepest level; the top level is zero. -/
  maxDepth : Int := 100

namespace Builder

/-- A document of its own: what writing a value as JSON and reading it again gives. -/
def detach (v : Value) : Outcome Value := do Json.read (← Json.write .spaced v)

/-- Evaluates a schema against a document. -/
abbrev Evaluator := Schema → Value → Outcome Value

/-- The refusal of a level below the limit. -/
def tooDeep {α : Type} (b : Builder) : Outcome α := Outcome.schema (.tooDeep b.maxDepth)

/-- A literal text with the text of each span's value in its place. -/
def interpolate (evaluate : Evaluator) (document : Value) (text : String) : Outcome String := do
  let parts ← (Expression.pieces text.toList).mapM fun
    | .char c => (Except.ok [c] : Outcome (List Char))
    | .span body => do
      let v ← evaluate (.scalar (String.ofList body)) document
      return (← v.toText).toList
  return String.ofList parts.flatten

/-- The value of a path query for a tag: a single result takes the first of several values. -/
def fromPath (tag : Tag) (document : Value) (path : String) : Outcome Value := do
  match ← Path.read document path with
  | .null => return .null
  | v =>
    match tag with
    | .many kind => castList v kind
    | .one kind =>
      match v with
      | .list [] => return .null
      | .list (.null :: _) => return .null
      | .list (first :: _) => cast first kind
      | other => cast other kind

/-- A literal argument: a number, a truth value, or a text with spans. -/
def literalArgument (evaluate : Evaluator) (document : Value) (raw : String) : Outcome Value :=
  let number : Option Value :=
    if raw.toList.contains '.' then (Decimal.read? raw.toList).map .decimal
    else (Number.readInteger? raw.toList).map .int
  match number with
  | some v => Except.ok v
  | none =>
    if Text.lower raw = "true" then Except.ok (.bool true)
    else if Text.lower raw = "false" then Except.ok (.bool false)
    else (interpolate evaluate document raw).map .text

/-- A literal that is JSON. -/
def jsonLiteral (raw : String) : Outcome Value :=
  match Json.read raw with
  | .error (.json fault) => Outcome.fail (.literal raw fault)
  | result => result

/-- The value of a literal for a tag. -/
def fromLiteral (evaluate : Evaluator) (tag : Tag) (document : Value) (raw : String) :
    Outcome Value :=
  match tag with
  | .one .string => (interpolate evaluate document raw).map .text
  | .one .object => jsonLiteral raw
  | .one kind => cast (.text raw) kind
  | .many kind => do castList (← jsonLiteral raw) kind

/-- A call that is being evaluated. -/
structure Frame where
  /-- The function. -/
  function : Function
  /-- The arguments evaluated so far, the last one first. -/
  arguments : List Value

/-- The value of the innermost call for a tag; only the outermost call has one. -/
def Frame.value (frame : Frame) (tag : Option Tag) : Outcome Value :=
  frame.function.invoke tag frame.arguments.reverse

/-- The call with one more argument. -/
def Frame.push (frame : Frame) (v : Value) : Frame :=
  { frame with arguments := v :: frame.arguments }

/-- Evaluates the tokens of a call from left to right. `frame` is the innermost open call and
`outer` holds the calls around it, the innermost first; `evaluate n` evaluates a schema `n` levels
below the outermost call, and `levels` says how many levels there are from that call down. The
result comes with the tokens after the end of the outermost call. -/
def runTokens (b : Builder) (levels : Nat) (evaluate : Nat → Evaluator) (tag : Tag)
    (document : Value) : List Expression.Token → Frame → List Frame →
      Outcome (Value × List Expression.Token)
  | [], frame, _ => Outcome.fail (.expression .missingParenthesis frame.function.name)
  | .path path :: rest, frame, outer => do
    let v ← Path.read document path
    runTokens b levels evaluate tag document rest (frame.push v) outer
  | .raw raw :: rest, frame, outer => do
    let v ← literalArgument (evaluate (outer.length + 1)) document raw
    runTokens b levels evaluate tag document rest (frame.push v) outer
  | .call name :: rest, frame, outer =>
    if levels ≤ outer.length + 1 then b.tooDeep
    else do
      let function ← b.functions.get name
      runTokens b levels evaluate tag document rest ⟨function, []⟩ (frame :: outer)
  | .close :: rest, frame, [] => do
    return (← frame.value (some tag), rest)
  | .close :: rest, frame, parent :: outer => do
    let v ← frame.value none
    runTokens b levels evaluate tag document rest (parent.push v) outer

/-- The value of a call for a tag, with the tokens after its end. `levels` counts the levels from
the call down, and `evaluate n` evaluates a schema `n` levels below it. -/
def runCall (b : Builder) (levels : Nat) (evaluate : Nat → Evaluator) (tag : Tag)
    (document : Value) (name : String) (tokens : List Expression.Token) :
    Outcome (Value × List Expression.Token) :=
  if levels = 0 then b.tooDeep
  else do
    let function ← b.functions.get name
    runTokens b levels evaluate tag document tokens ⟨function, []⟩ []

/-- The tag word of an expression and its body after the blanks that follow the word. -/
def splitTag? (expression : List Char) : Option (List Char × List Char) :=
  let text := Text.trimStart expression
  let word := text.takeWhile fun c => !Text.isBlank c
  let body := Text.trimStart (text.dropWhile fun c => !Text.isBlank c)
  if body.isEmpty then none else some (word, body)

/-- The value of an expression. `levels` counts the levels below it, and `evaluate n` evaluates a
schema `n + 1` levels below it. -/
def scalarValue (b : Builder) (levels : Nat) (evaluate : Nat → Evaluator) (expression : String)
    (document : Value) : Outcome Value :=
  match splitTag? expression.toList with
  | none => Outcome.schema (.expression expression)
  | some (word, body) =>
    match Tag.ofWord? (String.ofList word) with
    | none => Outcome.fail (.unknownTag (String.ofList word))
    | some tag =>
      match Expression.tokenize (String.ofList body) with
      | .error e => Outcome.fail e
      | .ok (.path path :: _) => fromPath tag document path
      | .ok (.call name :: rest) =>
        (runCall b levels evaluate tag document name rest).map Prod.fst
      | .ok _ => fromLiteral (evaluate 0) tag document (String.ofList body)

/-- The values that a list part iterates over. -/
def partItems (document : Value) (path : String) : Outcome (List Value) := do
  match ← Path.read document path with
  | .null => return []
  | .list items => return items
  | v => return [v]

/-- The results of a list part, one for each value that its path selects. -/
def partValues (evaluate : Evaluator) (document : Value) (path : String) (element : Schema) :
    Outcome (List Value) := do
  (← partItems document path).mapM fun item => do evaluate element (← detach item)

/-- The members of an object; a repeated name keeps its first place and its last value. -/
def objectValue (evaluate : Evaluator) (document : Value) (fields : List (String × Schema)) :
    Outcome Value := do
  let members ← fields.mapM fun (name, child) => do
    return (Key.text name, ← evaluate child document)
  return .object (Fields.ofList members)

/-- Evaluates a schema when its own level is allowed and `levels` more levels are. `evaluate n`
evaluates a schema `n + 1` levels below. -/
def step (b : Builder) (levels : Nat) (evaluate : Nat → Evaluator) : Evaluator
  | .scalar expression, document => scalarValue b levels evaluate expression document
  | .object fields, document => objectValue (evaluate 0) document fields
  | .arrayOf path element, document =>
    (partValues (evaluate 1) document path element).map .list
  | .list parts, document => do
    let results ← parts.mapM fun (path, element) => partValues (evaluate 1) document path element
    return .list results.flatten
  | .unsupported kind, _ => Outcome.schema (.unsupportedNode kind)

/-- Evaluates a schema `skip` levels below a level from which `levels` levels are allowed. -/
def evaluateAt (b : Builder) : (levels skip : Nat) → Evaluator
  | 0, _ => fun _ _ => b.tooDeep
  | levels + 1, 0 => step b levels (evaluateAt b levels)
  | levels + 1, skip + 1 => evaluateAt b levels skip

/-- How many levels the limit allows. -/
def levels (b : Builder) : Nat := (b.maxDepth + 1).toNat

/-- The value of a compiled schema for a document. -/
def evaluate (b : Builder) : Evaluator := evaluateAt b b.levels 0

/-- The value of a schema, given as data, for a document. -/
def build (b : Builder) (schema document : Value) : Outcome Value := do
  b.evaluate (← Schema.compile schema) document

/-- The value of a schema for a plain value, which becomes a document first. -/
def buildPlain (b : Builder) (schema v : Value) : Outcome Value := do
  let document ← detach v
  b.build schema document

/-- Skipping levels is the same as starting further down. -/
theorem evaluateAt_skip (b : Builder) (levels skip : Nat) :
    evaluateAt b levels skip = evaluateAt b (levels - skip) 0 := by
  induction levels generalizing skip with
  | zero => cases skip <;> simp [evaluateAt]
  | succ levels ih =>
    cases skip with
    | zero => rfl
    | succ skip => rw [evaluateAt, ih, Nat.add_sub_add_right]

end Builder

end Stencil
