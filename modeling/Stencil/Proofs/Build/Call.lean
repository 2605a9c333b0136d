import Stencil.Build
import Stencil.Proofs.Expression.Tree
import Stencil.Proofs.Path.Values

/-!
# Calls as trees

The value of a call by recursion over its tree: the arguments from left to right, then the
function; only the outermost call is asked for a type. Running over the flat tokens of the call,
with the open calls on a stack, gives the same value or failure and stops right after the end of
the call.
-/

namespace Stencil.Builder

open Expression (Argument Token IsOneCall)
open Outcome (FailsOnly)

section

variable (b : Builder) (levels : Nat) (evaluate : Nat → Evaluator) (document : Value)

/-- The value of a call from the values of its arguments. `below` counts the calls around it. -/
def callValue (below : Nat) (tag : Option Tag) (name : String)
    (arguments : Outcome (List Value)) : Outcome Value :=
  if levels ≤ below then b.tooDeep
  else do
    let function ← b.functions.get name
    function.invoke tag (← arguments)

mutual

/-- The value of an argument. `below` counts the calls around it. -/
def argumentValue : Argument → Nat → Outcome Value
  | .path path, _ => Path.read document path
  | .raw raw, below => literalArgument (evaluate below) document raw
  | .call name arguments, below =>
    callValue b levels below none name (argumentValues arguments (below + 1))
  termination_by structural argument => argument

/-- The values of arguments from left to right. -/
def argumentValues : List Argument → Nat → Outcome (List Value)
  | [], _ => Except.ok []
  | argument :: rest, below => do
    let v ← argumentValue argument below
    return v :: (← argumentValues rest below)
  termination_by structural arguments => arguments

end

/-- The call with more arguments. -/
def Frame.pushAll (frame : Frame) (vs : List Value) : Frame :=
  { frame with arguments := vs.reverse ++ frame.arguments }

/-- The first of more arguments is pushed first. -/
theorem Frame.pushAll_cons (frame : Frame) (v : Value) (vs : List Value) :
    frame.pushAll (v :: vs) = (frame.push v).pushAll vs := by
  simp [pushAll, push]

variable (tag : Tag)

mutual

/-- Running over the tokens of an argument pushes its value. -/
theorem runTokens_flatten (argument : Argument) (rest : List Token) (frame : Frame)
    (outer : List Frame) :
    runTokens b levels evaluate tag document (argument.flatten ++ rest) frame outer = (do
      let v ← argumentValue b levels evaluate document argument (outer.length + 1)
      runTokens b levels evaluate tag document rest (frame.push v) outer) := by
  cases argument with
  | path path => rfl
  | raw raw => rfl
  | call name arguments =>
    simp only [Argument.flatten, List.cons_append, List.append_assoc, List.nil_append, runTokens,
      argumentValue, callValue]
    split
    · rfl
    · cases b.functions.get name with
      | error => rfl
      | ok function =>
        simp only [Outcome.ok_bind]
        rw [runTokens_flattenAll]
        cases argumentValues b levels evaluate document arguments (outer.length + 1 + 1) with
        | error failure => simp
        | ok vs =>
          simp [runTokens, Frame.value, Frame.pushAll]
  termination_by structural argument

/-- Running over the tokens of arguments pushes their values. -/
theorem runTokens_flattenAll (arguments : List Argument) (rest : List Token) (frame : Frame)
    (outer : List Frame) :
    runTokens b levels evaluate tag document (Argument.flattenAll arguments ++ rest) frame outer =
      (do
        let vs ← argumentValues b levels evaluate document arguments (outer.length + 1)
        runTokens b levels evaluate tag document rest (frame.pushAll vs) outer) := by
  cases arguments with
  | nil => simp [Argument.flattenAll, argumentValues, Frame.pushAll]
  | cons argument arguments =>
    simp only [Argument.flattenAll, List.append_assoc, argumentValues]
    rw [runTokens_flatten]
    cases argumentValue b levels evaluate document argument (outer.length + 1) with
    | error => rfl
    | ok v =>
      simp only [Outcome.ok_bind]
      rw [runTokens_flattenAll]
      cases argumentValues b levels evaluate document arguments (outer.length + 1) with
      | error => rfl
      | ok vs => simp [Frame.pushAll_cons]
  termination_by structural arguments

end

/-- Running a call over its tokens gives the value of its tree and the tokens after its end. -/
theorem runCall_flattenAll (name : String) (arguments : List Argument) (rest : List Token) :
    runCall b levels evaluate tag document name
        (Argument.flattenAll arguments ++ .close :: rest) =
      (callValue b levels 0 (some tag) name
        (argumentValues b levels evaluate document arguments 1)).map fun v => (v, rest) := by
  simp only [runCall, callValue, Nat.le_zero_eq]
  split
  · rfl
  · cases b.functions.get name with
    | error => rfl
    | ok function =>
      simp only [Outcome.ok_bind]
      rw [runTokens_flattenAll]
      cases argumentValues b levels evaluate document arguments (0 + 1) with
      | error => rfl
      | ok vs =>
        simp only [Outcome.ok_bind, runTokens, Frame.value, Frame.pushAll, List.append_nil,
          List.reverse_reverse]
        cases function.invoke (some tag) vs <;> rfl

/-- The failures that a call of tokens may pass on from elsewhere: those of the levels, of the
look-up of functions, of paths, of the literals among the tokens, and of the functions called. -/
structure Covers (p : Failure → Prop) (tokens : List Token) : Prop where
  /-- A level too deep. -/
  tooDeep : FailsOnly p (b.tooDeep : Outcome Value)
  /-- A function that is not known. -/
  unknown : ∀ name, FailsOnly p (b.functions.get name)
  /-- A path that cannot be read. -/
  path : ∀ path, FailsOnly p (Path.read document path)
  /-- A literal that cannot be evaluated. -/
  literal : ∀ raw, .raw raw ∈ tokens →
    ∀ below, FailsOnly p (literalArgument (evaluate below) document raw)
  /-- A function that fails. -/
  function : ∀ name, .call name ∈ tokens → ∀ f, b.functions.get name = .ok f →
    ∀ requested vs, FailsOnly p (f.invoke requested vs)

variable {b levels evaluate document}

/-- What covers tokens covers each part of them. -/
theorem Covers.mono {p : Failure → Prop} {tokens part : List Token}
    (covers : Covers b evaluate document p tokens) (h : ∀ token ∈ part, token ∈ tokens) :
    Covers b evaluate document p part :=
  { covers with
    literal := fun raw hr => covers.literal raw (h _ hr)
    function := fun name hn => covers.function name (h _ hn) }

/-- A call fails as its level, its look-up, its arguments or its function do. -/
theorem failsOnly_callValue {p : Failure → Prop} {tokens : List Token}
    (covers : Covers b evaluate document p tokens) (below : Nat) (requested : Option Tag)
    {name : String} (called : .call name ∈ tokens) {values : Outcome (List Value)}
    (arguments : FailsOnly p values) :
    FailsOnly p (callValue b levels below requested name values) := by
  unfold callValue
  split
  · exact covers.tooDeep
  · intro failure h
    cases found : b.functions.get name with
    | error e =>
      rw [found] at h
      cases h
      exact covers.unknown name _ found
    | ok function =>
      rw [found, Outcome.ok_bind] at h
      have invoked := arguments.bind (covers.function name called function found requested)
      exact invoked failure h

mutual

/-- An argument fails only with a failure that covers its tokens. -/
theorem failsOnly_argumentValue {p : Failure → Prop} (argument : Argument) (below : Nat)
    (covers : Covers b evaluate document p argument.flatten) :
    FailsOnly p (argumentValue b levels evaluate document argument below) := by
  cases argument with
  | path path => exact covers.path path
  | raw raw => exact covers.literal raw (by simp [Argument.flatten]) below
  | call name arguments =>
    have inside : ∀ token ∈ Argument.flattenAll arguments,
        token ∈ (Argument.call name arguments).flatten := by
      intro token h
      simp [Argument.flatten, h]
    exact failsOnly_callValue covers below none (by simp [Argument.flatten])
      (failsOnly_argumentValues arguments (below + 1) (covers.mono inside))
  termination_by structural argument

/-- Arguments fail only with a failure that covers their tokens. -/
theorem failsOnly_argumentValues {p : Failure → Prop} (arguments : List Argument) (below : Nat)
    (covers : Covers b evaluate document p (Argument.flattenAll arguments)) :
    FailsOnly p (argumentValues b levels evaluate document arguments below) := by
  cases arguments with
  | nil => exact .ok []
  | cons argument arguments =>
    have first := failsOnly_argumentValue argument below
      (covers.mono fun token h => by simp [Argument.flattenAll, h])
    have others := failsOnly_argumentValues arguments below
      (covers.mono fun token h => by simp [Argument.flattenAll, h])
    exact first.bind fun v => others.bind fun vs => .ok (v :: vs)
  termination_by structural arguments

end

end

/-- A function refuses a call with failures of its own kind, or fails by itself. -/
theorem failsOnly_invoke {p : Failure → Prop} {f : Function} {requested : Option Tag}
    {vs : List Value} (refuses : ∀ tag, p (.error (.unsupportedType f.name tag)))
    (lacks : p (.error (.tooFewArguments f.name f.minArguments vs.length)))
    (applies : FailsOnly p (f.apply requested vs)) : FailsOnly p (f.invoke requested vs) := by
  unfold Function.invoke
  split
  · exact .error (refuses _)
  · split
    · exact .error lacks
    · exact applies

/-- The failure of tokens that end inside of a call. -/
def unclosed (text : String) : Failure := .error (.expression .missingParenthesis text)

/-- The failure of an unclosed call comes from a literal among the tokens, in which a span is
evaluated, or from the code of a function that is called. -/
def PassedOn (b : Builder) (evaluate : Nat → Evaluator) (document : Value) (tokens : List Token)
    (text : String) : Prop :=
  (∃ raw below, .raw raw ∈ tokens ∧
    literalArgument (evaluate below) document raw = .error (unclosed text)) ∨
  (∃ called f requested vs, .call called ∈ tokens ∧ b.functions.get called = .ok f ∧
    f.apply requested vs = .error (unclosed text))

/-- No step of the evaluation of a tree is itself the failure of an unclosed call. -/
theorem covers_passedOn (b : Builder) (evaluate : Nat → Evaluator) (document : Value)
    (tokens : List Token) :
    Covers b evaluate document
      (fun failure => ∀ text, failure = unclosed text → PassedOn b evaluate document tokens text)
      tokens where
  tooDeep := .error fun text h => by cases h
  unknown name := by
    unfold Registry.get
    split
    · exact .ok _
    · exact .error fun text h => by cases h
  path path := by
    intro failure h text unclosed
    rcases Path.failsOnly_read document path failure h with ⟨_, rfl⟩ | ⟨_, rfl⟩ <;> cases unclosed
  literal raw among below := by
    rintro failure h text rfl
    exact .inl ⟨raw, below, among, h⟩
  function name called f known requested vs := by
    refine failsOnly_invoke (fun tag text h => by cases h) (fun text h => by cases h) ?_
    rintro failure h text rfl
    exact .inr ⟨name, f, requested, vs, called, known, h⟩

/-- The tokens of an expression that is a call are those of one call tree: one balanced call that
the last token ends. Running over the tokens after the first one gives the value or failure of the
tree and leaves no token. The run itself never misses the end of a call: it only passes such a
failure on. -/
theorem runCall_of_tokenize {expression name : String} {rest : List Token}
    (h : Expression.tokenize expression = .ok (.call name :: rest)) :
    IsOneCall (.call name :: rest) ∧
    ∃ arguments, (Argument.call name arguments).flatten = .call name :: rest ∧
      ∀ (b : Builder) (levels : Nat) (evaluate : Nat → Evaluator) (tag : Tag) (document : Value),
        runCall b levels evaluate tag document name rest =
          (callValue b levels 0 (some tag) name
            (argumentValues b levels evaluate document arguments 1)).map (fun v => (v, [])) ∧
        ∀ text, runCall b levels evaluate tag document name rest = .error (unclosed text) →
          PassedOn b evaluate document (.call name :: rest) text := by
  obtain ⟨arguments, rfl⟩ := Expression.exists_call h
  refine ⟨(Argument.isClosed_flattenAll arguments).isOneCall name, arguments, rfl, ?_⟩
  intro b levels evaluate tag document
  have run := runCall_flattenAll b levels evaluate document tag name arguments []
  refine ⟨run, fun text missed => ?_⟩
  have covers := covers_passedOn b evaluate document
    (.call name :: (Argument.flattenAll arguments ++ [.close]))
  have values : FailsOnly _ (argumentValues b levels evaluate document arguments 1) :=
    failsOnly_argumentValues arguments 1 (covers.mono fun token h => by simp [h])
  have value : FailsOnly _ (callValue b levels 0 (some tag) name
      (argumentValues b levels evaluate document arguments 1)) :=
    failsOnly_callValue covers 0 (some tag) List.mem_cons_self values
  rw [run] at missed
  exact value.map _ _ missed text rfl

/-- A call with a nested call: its run leaves no token. -/
theorem runCall_of_tokenize_nested :
    Expression.tokenize "max(count($.a), 3)" = .ok [
      .call "max", .call "count", .path "$.a", .close, .raw "3", .close] ∧
    IsOneCall [.call "max", .call "count", .path "$.a", .close, .raw "3", .close] ∧
    ∀ (b : Builder) (levels : Nat) (evaluate : Nat → Evaluator) (tag : Tag) (document : Value)
      (v : Value) (left : List Token),
      runCall b levels evaluate tag document "max"
        [.call "count", .path "$.a", .close, .raw "3", .close] = .ok (v, left) → left = [] := by
  have head : Expression.tokenize "max(count($.a), 3)" =
      Expression.callTokens "max".toList "count($.a), 3".toList := by rfl
  have outer : Expression.splitArguments "count($.a), 3".toList =
      .ok ["count($.a)".toList, "3".toList] := by rfl
  have inner : Expression.splitArguments "$.a".toList = .ok ["$.a".toList] := by rfl
  have call : Expression.shapeOf "count($.a)".toList =
      .ok (.call "count" "$.a".toList) := by rfl
  have word : Expression.shapeOf "3".toList = .ok (.leaf (.raw "3")) := by rfl
  have path : Expression.shapeOf "$.a".toList = .ok (.leaf (.path "$.a")) := by rfl
  have none : Expression.argumentTokens [] = .ok [] := by rw [Expression.argumentTokens]
  have tokens : Expression.tokenize "max(count($.a), 3)" = .ok [
      .call "max", .call "count", .path "$.a", .close, .raw "3", .close] := by
    rw [head, Expression.callTokens, outer]
    simp only [Outcome.ok_bind, Expression.argumentTokens_cons, call, word, path,
      Expression.Shape.tokens, Expression.callTokens, inner, none, String.ofList_toList]
    rfl
  obtain ⟨one, _, _, run⟩ := runCall_of_tokenize tokens
  refine ⟨tokens, one, fun b levels evaluate tag document v left h => ?_⟩
  rw [(run b levels evaluate tag document).1] at h
  obtain ⟨_, _, same⟩ := Outcome.exists_of_map_eq_ok h
  cases same
  rfl

end Stencil.Builder
