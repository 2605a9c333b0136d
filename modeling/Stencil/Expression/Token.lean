import Stencil.Expression.Arguments

/-!
# Tokens of an expression

An expression is a path query, a function call, or a literal. A call becomes a flat list of tokens:
its name, the tokens of its arguments in order, and a closing token; calls among the arguments
stand inline.
-/

namespace Stencil.Expression

/-- A part of an expression. -/
inductive Token where
  /-- A path query. -/
  | path (text : String)
  /-- The start of a call of the named function. -/
  | call (name : String)
  /-- The end of the call that was started last and is not ended yet. -/
  | close
  /-- A literal. -/
  | raw (text : String)
  deriving DecidableEq, Repr

/-- A character that may start a function's name. -/
def isNameStart (c : Char) : Bool := c.isAlpha || c = '_'

/-- A character that may stand in a function's name. -/
def isNameChar (c : Char) : Bool := c.isAlphanum || c = '_'

/-- A function's name at the start of a text that is directly followed by a round bracket, and the
text from that bracket on. -/
def callHead? (text : List Char) : Option (List Char × List Char) :=
  match text with
  | [] => none
  | c :: _ =>
    if isNameStart c then
      match text.dropWhile isNameChar with
      | '(' :: rest => some (text.takeWhile isNameChar, '(' :: rest)
      | _ => none
    else none

/-- The name and the bracket of a call are part of the text. -/
theorem length_callHead? {text name opened : List Char} (h : callHead? text = some (name, opened)) :
    opened.length ≤ text.length := by
  unfold callHead? at h
  split at h
  · simp at h
  · split at h
    · split at h
      · next rest heq =>
        simp only [Option.some.injEq, Prod.mk.injEq] at h
        rw [← h.2, ← heq]
        exact (List.dropWhile_suffix _).length_le
      · simp at h
    · simp at h

/-- What stands between the bracket that starts a text and the one that closes it, if that one ends
the text. -/
def enclosed? (opened : List Char) : Except SyntaxProblem (Option (List Char)) :=
  (closingFrom none [] false opened).map fun n =>
    if n + 1 = opened.length then some (opened.tail.take (n - 1)) else none

/-- What stands between brackets is shorter than the text. -/
theorem length_enclosed? {opened inner : List Char} (h : enclosed? opened = .ok (some inner)) :
    inner.length < opened.length := by
  unfold enclosed? at h
  cases found : closingFrom none [] false opened with
  | error => simp [found, Except.map] at h
  | ok n =>
    simp only [found, Except.map, Except.ok.injEq, Option.ite_none_right_eq_some,
      Option.some.injEq] at h
    obtain ⟨ends, rfl⟩ := h
    simp only [List.length_take, List.length_tail]
    omega

/-- What an argument is. -/
inductive Shape where
  /-- A path query or a literal. -/
  | leaf (token : Token)
  /-- A call of the named function with the text of its arguments. -/
  | call (name : String) (inner : List Char)
  deriving Repr

/-- An error about a text. -/
def problemIn {α : Type} (problem : SyntaxProblem) (text : List Char) : Except Error α :=
  .error (.expression problem (String.ofList text))

/-- A quoted argument without its quotes. -/
def unquoted (quote : Char) (argument : List Char) : Except Error Shape :=
  if argument.length < 2 || argument.getLast? ≠ some quote then
    problemIn .unterminatedArgument argument
  else .ok (.leaf (.raw (String.ofList argument.tail.dropLast)))

/-- What an argument is: a quoted literal, a path, a call, or a bare literal. -/
def shapeOf (argument : List Char) : Except Error Shape :=
  match argument with
  | [] => .ok (.leaf (.raw ""))
  | c :: _ =>
    if isQuote c then unquoted c argument
    else if c = '$' then .ok (.leaf (.path (String.ofList argument)))
    else
      match callHead? argument with
      | none => .ok (.leaf (.raw (String.ofList argument)))
      | some (name, opened) =>
        match enclosed? opened with
        | .error problem => problemIn problem argument
        | .ok none => problemIn .textAfterCall argument
        | .ok (some inner) => .ok (.call (String.ofList name) inner)

/-- The arguments of a call among the arguments are shorter than the call. -/
theorem length_shapeOf {argument inner : List Char} {name : String}
    (h : shapeOf argument = .ok (.call name inner)) : inner.length < argument.length := by
  unfold shapeOf at h
  split at h
  · simp at h
  · split at h
    · simp only [unquoted, problemIn] at h
      split at h <;> simp at h
    · split at h
      · simp at h
      · split at h
        · simp at h
        · next heads =>
          split at h
          · simp [problemIn] at h
          · simp [problemIn] at h
          · next encloses =>
            simp only [Except.ok.injEq, Shape.call.injEq] at h
            have := length_enclosed? encloses
            have := length_callHead? heads
            rw [← h.2]
            omega

/-- Splitting a text gives no more than fills the text. -/
theorem room_splitArguments {text : List Char} {pieces : List (List Char)}
    (h : splitArguments text = .ok pieces) : room pieces ≤ text.length + 1 := by
  unfold splitArguments at h
  split at h
  · next split =>
    cases h
    unfold splitPieces at split
    cases found : splitFrom none [] false text with
    | error => simp [found, Except.map] at split
    | ok all =>
      simp only [found, Except.map, Except.ok.injEq] at split
      rw [← (room_splitFrom _ _ _ _ _ found).2, ← split]
      clear split found
      induction all with
      | nil => simp [room]
      | cons piece rest ih =>
        by_cases empty : piece.isEmpty
        · simp only [room, empty, List.filter_cons, Bool.not_true, Bool.false_eq_true,
            if_false] at ih ⊢
          omega
        · simp only [room, empty, List.filter_cons, Bool.not_false, if_true] at ih ⊢
          omega
  · simp at h

/-- The tokens of arguments. -/
def argumentTokens (arguments : List (List Char)) : Except Error (List Token) :=
  match arguments with
  | [] => .ok []
  | argument :: rest =>
    match _shape : shapeOf argument with
    | .error e => .error e
    | .ok (.leaf token) => (argumentTokens rest).map (token :: ·)
    | .ok (.call name inner) =>
      match _split : splitArguments inner with
      | .error e => .error e
      | .ok pieces => do
        let inside ← argumentTokens pieces
        let after ← argumentTokens rest
        return .call name :: inside ++ .close :: after
  termination_by room arguments
  decreasing_by
    · simp [room]
    · have := length_shapeOf _shape
      have := room_splitArguments _split
      simp only [room] at *
      omega
    · simp [room]

/-- The tokens of a call. -/
def callTokens (name inner : List Char) : Except Error (List Token) := do
  let inside ← argumentTokens (← splitArguments inner)
  return .call (String.ofList name) :: inside ++ [.close]

/-- The tokens of an expression. A call must be the whole expression; a literal keeps the blanks
around it. -/
def tokenize (expression : String) : Except Error (List Token) :=
  let text := Text.trim expression.toList
  if text.head? = some '$' then .ok [.path (String.ofList text)]
  else
    match callHead? text with
    | none => .ok [.raw expression]
    | some (name, opened) =>
      match enclosed? opened with
      | .error problem => problemIn problem text
      | .ok none => .ok [.raw expression]
      | .ok (some inner) => callTokens name inner

/-- A text that starts with no path and no call is one literal. -/
theorem tokenize_raw {expression : String}
    (notPath : (Text.trim expression.toList).head? ≠ some '$')
    (noCall : callHead? (Text.trim expression.toList) = none) :
    tokenize expression = .ok [.raw expression] := by
  simp [tokenize, notPath, noCall]

end Stencil.Expression
