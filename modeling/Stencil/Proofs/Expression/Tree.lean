import Stencil.Expression.Call
import Stencil.Expression.Span
import Stencil.Proofs.Expression.Token

/-!
# Call trees of token lists

The tokens of an expression that is a call are those of a call tree. As brackets they are one
balanced pair: the call that the first token starts is ended by the last token and by none before.

The arguments of a call are parsed from its tokens: a stack holds the open calls, each with the
arguments before it. The literals among the tokens are parts of the text, and so are the bodies of
spans, so whatever an expression is made of is shorter than the expression.
-/

namespace Stencil.Expression

/-- How many more calls tokens start than they end. -/
def nesting : List Token → Int
  | [] => 0
  | .call _ :: rest => nesting rest + 1
  | .close :: rest => nesting rest - 1
  | .path _ :: rest => nesting rest
  | .raw _ :: rest => nesting rest

/-- The nesting of tokens one after the other adds up. -/
theorem nesting_append (before after : List Token) :
    nesting (before ++ after) = nesting before + nesting after := by
  induction before with
  | nil => simp [nesting]
  | cons token before ih =>
    cases token <;> simp only [List.cons_append, nesting, ih] <;> omega

/-- Tokens that end every call that they start, and no other. -/
structure IsClosed (tokens : List Token) : Prop where
  /-- As many calls are ended as are started. -/
  balanced : nesting tokens = 0
  /-- At no point are more calls ended than started. -/
  never : ∀ before after, tokens = before ++ after → 0 ≤ nesting before

/-- Tokens of a single call: the first one starts it, and the last one ends it. -/
structure IsOneCall (tokens : List Token) : Prop where
  /-- As many calls are ended as are started. -/
  balanced : nesting tokens = 0
  /-- From the first token up to the last one the call is open. -/
  stillOpen : ∀ before after, tokens = before ++ after → before ≠ [] → after ≠ [] →
    0 < nesting before
  /-- The last token is an end. -/
  ends : tokens.getLast? = some .close

/-- A path or a literal is closed. -/
theorem IsClosed.leaf {token : Token} (h : nesting [token] = 0) : IsClosed [token] := by
  refine ⟨h, fun before after split => ?_⟩
  cases before with
  | nil => exact Int.le_refl 0
  | cons first before =>
    obtain ⟨rfl, nothing⟩ := List.cons.inj split
    have whole : before = [] := (List.append_eq_nil_iff.mp nothing.symm).1
    subst whole
    exact Int.le_of_eq h.symm

/-- Closed tokens one after the other are closed. -/
theorem IsClosed.append {first second : List Token} (h : IsClosed first) (h' : IsClosed second) :
    IsClosed (first ++ second) := by
  refine ⟨by rw [nesting_append, h.balanced, h'.balanced]; rfl, fun before after split => ?_⟩
  rcases List.append_eq_append_iff.mp split with ⟨rest, rfl, inSecond⟩ | ⟨rest, inFirst, -⟩
  · rw [nesting_append, h.balanced, Int.zero_add]
    exact h'.never rest after inSecond
  · exact h.never before rest inFirst

/-- A call around closed tokens is a single call. -/
theorem IsClosed.isOneCall {inside : List Token} (h : IsClosed inside) (name : String) :
    IsOneCall (.call name :: inside ++ [.close]) := by
  refine ⟨?_, fun before after split started unfinished => ?_, List.getLast?_concat⟩
  · simp only [nesting, List.cons_append, nesting_append, h.balanced]
    rfl
  · cases before with
    | nil => exact absurd rfl started
    | cons first before =>
      obtain ⟨rfl, rest⟩ := List.cons.inj split
      -- the last token stands in `after`, so `before` is a part of the inside
      have within : ∃ more, inside = before ++ more := by
        rcases List.append_eq_append_iff.mp rest with ⟨more, rfl, last⟩ | ⟨more, inFirst, -⟩
        · cases more with
          | nil => exact ⟨[], by simp⟩
          | cons token more =>
            obtain ⟨-, nothing⟩ := List.cons.inj last
            exact absurd (List.append_eq_nil_iff.mp nothing.symm).2 unfinished
        · exact ⟨more, inFirst⟩
      obtain ⟨more, inFirst⟩ := within
      have := h.never before more inFirst
      simp only [nesting]
      omega

/-- A single call is closed. -/
theorem IsOneCall.isClosed {tokens : List Token} (h : IsOneCall tokens) : IsClosed tokens := by
  refine ⟨h.balanced, fun before after split => ?_⟩
  by_cases started : before = []
  · subst started
    exact Int.le_refl 0
  · by_cases unfinished : after = []
    · subst unfinished
      rw [List.append_nil] at split
      subst split
      exact Int.le_of_eq h.balanced.symm
    · exact Int.le_of_lt (h.stillOpen before after split started unfinished)

namespace Argument

mutual

/-- The tokens of an argument are closed. -/
theorem isClosed_flatten (argument : Argument) : IsClosed argument.flatten := by
  cases argument with
  | path text => exact .leaf rfl
  | raw text => exact .leaf rfl
  | call name arguments => exact ((isClosed_flattenAll arguments).isOneCall name).isClosed
  termination_by structural argument

/-- The tokens of arguments are closed. -/
theorem isClosed_flattenAll (arguments : List Argument) : IsClosed (flattenAll arguments) := by
  cases arguments with
  | nil => exact ⟨rfl, fun before after split => by
      rw [(List.append_eq_nil_iff.mp split.symm).1]; exact Int.le_refl 0⟩
  | cons argument rest => exact (isClosed_flatten argument).append (isClosed_flattenAll rest)
  termination_by structural arguments

end

end Argument

/-- An argument that is no call is a path or a literal. -/
theorem shapeOf_leaf {argument : List Char} {token : Token}
    (h : shapeOf argument = .ok (.leaf token)) :
    ∃ leaf : Argument, leaf.flatten = [token] := by
  unfold shapeOf at h
  split at h
  · cases h
    exact ⟨.raw _, rfl⟩
  · split at h
    · unfold unquoted at h
      split at h
      · cases h
      · cases h
        exact ⟨.raw _, rfl⟩
    · split at h
      · cases h
        exact ⟨.path _, rfl⟩
      · split at h
        · cases h
          exact ⟨.raw _, rfl⟩
        · split at h <;> cases h

/-- The tokens of arguments are those of trees. -/
theorem exists_arguments {pieces : List (List Char)} {tokens : List Token}
    (h : argumentTokens pieces = .ok tokens) :
    ∃ arguments, tokens = Argument.flattenAll arguments := by
  fun_induction argumentTokens pieces generalizing tokens with
  | case1 =>
    cases h
    exact ⟨[], rfl⟩
  | case2 => cases h
  | case3 argument rest token shape ih =>
    obtain ⟨_, tokens', rfl⟩ := Outcome.exists_of_map_eq_ok h
    obtain ⟨leaf, isLeaf⟩ := shapeOf_leaf shape
    obtain ⟨arguments, rfl⟩ := ih tokens'
    exact ⟨leaf :: arguments, by rw [Argument.flattenAll, isLeaf]; rfl⟩
  | case4 => cases h
  | case5 argument rest name inner _ pieces _ inside_ih rest_ih =>
    obtain ⟨_, insideTokens, h⟩ := Outcome.exists_of_bind_eq_ok h
    obtain ⟨_, restTokens, h⟩ := Outcome.exists_of_bind_eq_ok h
    cases h
    obtain ⟨inside, rfl⟩ := inside_ih insideTokens
    obtain ⟨arguments, rfl⟩ := rest_ih restTokens
    exact ⟨.call name inside :: arguments, by simp [Argument.flattenAll, Argument.flatten]⟩

/-- The tokens of an expression that starts a call are those of a call tree. -/
theorem exists_call {expression name : String} {rest : List Token}
    (h : tokenize expression = .ok (.call name :: rest)) :
    ∃ arguments, rest = Argument.flattenAll arguments ++ [.close] := by
  unfold tokenize at h
  dsimp only at h
  split at h
  · cases h
  · split at h
    · cases h
    · split at h
      · cases h
      · cases h
      · obtain ⟨pieces, -, h⟩ := Outcome.exists_of_bind_eq_ok h
        obtain ⟨inside, tokens, h⟩ := Outcome.exists_of_bind_eq_ok h
        cases h
        obtain ⟨arguments, rfl⟩ := exists_arguments tokens
        exact ⟨arguments, rfl⟩

end Stencil.Expression

namespace Stencil.Expression

namespace Argument

/-- The arguments of the outermost call, up to its end. `before` holds the arguments of the
innermost open call so far, the last one first; `outer` holds the calls around it in the same way,
the innermost first. -/
def parse : List Token → List (String × List Argument) → List Argument → List Argument
  | [], _, before => before.reverse
  | .path text :: rest, outer, before => parse rest outer (.path text :: before)
  | .raw text :: rest, outer, before => parse rest outer (.raw text :: before)
  | .call name :: rest, outer, before => parse rest ((name, before) :: outer) []
  | .close :: _, [], before => before.reverse
  | .close :: rest, (name, earlier) :: outer, before =>
    parse rest outer (.call name before.reverse :: earlier)

/-- The arguments of a call from the tokens after its name. -/
def ofTokens (tokens : List Token) : List Argument := parse tokens [] []

mutual

/-- The tokens of an argument make one more argument. -/
theorem parse_flatten (argument : Argument) (rest : List Token)
    (outer : List (String × List Argument)) (before : List Argument) :
    parse (argument.flatten ++ rest) outer before = parse rest outer (argument :: before) := by
  cases argument with
  | path text => rfl
  | raw text => rfl
  | call name arguments =>
    rw [flatten, List.append_assoc, List.cons_append, parse, parse_flattenAll, List.append_nil]
    simp only [List.cons_append, List.nil_append, parse, List.reverse_reverse]
  termination_by structural argument

/-- The tokens of arguments make these arguments. -/
theorem parse_flattenAll (arguments : List Argument) (rest : List Token)
    (outer : List (String × List Argument)) (before : List Argument) :
    parse (flattenAll arguments ++ rest) outer before =
      parse rest outer (arguments.reverse ++ before) := by
  cases arguments with
  | nil => rfl
  | cons argument arguments =>
    rw [flattenAll, List.append_assoc, parse_flatten, parse_flattenAll, List.reverse_cons,
      List.append_assoc]
    rfl
  termination_by structural arguments

end

/-- The arguments of a call are found in its tokens. -/
theorem ofTokens_flattenAll (arguments : List Argument) (rest : List Token) :
    ofTokens (flattenAll arguments ++ .close :: rest) = arguments := by
  rw [ofTokens, parse_flattenAll, List.append_nil, parse, List.reverse_reverse]

end Argument

/-- A literal that is an argument is a part of it. -/
theorem length_le_of_shapeOf {argument : List Char} {text : String}
    (h : shapeOf argument = .ok (.leaf (.raw text))) : text.toList.length ≤ argument.length := by
  unfold shapeOf at h
  split at h
  · cases h
    exact Nat.le_refl 0
  · next c rest =>
    split at h
    · unfold unquoted at h
      split at h
      · cases h
      · cases h
        simp only [String.toList_ofList, List.length_dropLast, List.length_tail]
        omega
    · split at h
      · cases h
      · split at h
        · cases h
          simp
        · split at h <;> cases h

/-- A literal among the arguments of a call takes no more than their room. -/
theorem length_lt_room {pieces : List (List Char)} {tokens : List Token}
    (h : argumentTokens pieces = .ok tokens) {text : String} (among : .raw text ∈ tokens) :
    text.toList.length < room pieces := by
  fun_induction argumentTokens pieces generalizing tokens with
  | case1 =>
    cases h
    cases among
  | case2 => cases h
  | case3 argument rest token shape ih =>
    obtain ⟨others, found, rfl⟩ := Outcome.exists_of_map_eq_ok h
    rw [room]
    rcases List.mem_cons.mp among with rfl | later
    · have part := length_le_of_shapeOf shape
      omega
    · have part := ih found later
      omega
  | case4 => cases h
  | case5 argument rest name inner shape pieces split inside_ih rest_ih =>
    obtain ⟨inside, insideTokens, h⟩ := Outcome.exists_of_bind_eq_ok h
    obtain ⟨others, restTokens, h⟩ := Outcome.exists_of_bind_eq_ok h
    cases h
    have shorter := length_shapeOf shape
    have fits := room_splitArguments split
    rw [room]
    simp only [List.cons_append, List.mem_cons, reduceCtorEq, List.mem_append, false_or] at among
    rcases among with within | later
    · have part := inside_ih insideTokens within
      omega
    · have part := rest_ih restTokens later
      omega

/-- Trimming makes no text longer. -/
theorem length_trim_le (text : List Char) : (Text.trim text).length ≤ text.length := by
  have start : (Text.trimStart text).length ≤ text.length :=
    (List.dropWhile_suffix _).length_le
  have ending := (List.dropWhile_suffix Text.isBlank (l := (Text.trimStart text).reverse)).length_le
  rw [List.length_reverse] at ending
  rw [Text.trim, Text.trimEnd, List.length_reverse]
  omega

/-- A literal in an expression is no longer than the expression. -/
theorem length_le_of_tokenize {expression : String} {tokens : List Token}
    (h : tokenize expression = .ok tokens) {text : String} (among : .raw text ∈ tokens) :
    text.toList.length ≤ expression.toList.length := by
  unfold tokenize at h
  dsimp only at h
  split at h
  · cases h
    simp at among
  · split at h
    · cases h
      obtain rfl : text = expression := by simpa using among
      exact Nat.le_refl _
    · next heads =>
      split at h
      · cases h
      · cases h
        obtain rfl : text = expression := by simpa using among
        exact Nat.le_refl _
      · next encloses =>
        obtain ⟨pieces, split, h⟩ := Outcome.exists_of_bind_eq_ok h
        obtain ⟨inside, found, h⟩ := Outcome.exists_of_bind_eq_ok h
        cases h
        have within : .raw text ∈ inside := by simpa using among
        have part := length_lt_room found within
        have fits := room_splitArguments split
        have shorter := length_enclosed? encloses
        have opened := length_callHead? heads
        have trimmed := length_trim_le expression.toList
        omega

/-- The body of a span is shorter than what the pieces spell. -/
theorem length_lt_spell {body : List Char} {parts : List Piece} (among : .span body ∈ parts) :
    body.length < (spell parts).length := by
  induction parts with
  | nil => cases among
  | cons part rest ih =>
    cases part with
    | char c =>
      have later : .span body ∈ rest := by simpa using among
      have shorter := ih later
      simp only [spell, List.length_cons]
      omega
    | span first =>
      simp only [spell, List.length_append, List.length_cons]
      rcases List.mem_cons.mp among with same | later
      · cases same
        omega
      · have shorter := ih later
        omega

/-- The body of a span is shorter than the text. -/
theorem length_lt_of_span {text body : List Char} (among : .span body ∈ pieces text) :
    body.length < text.length := by
  have shorter := length_lt_spell among
  rwa [pieces, spell_piecesFrom, List.nil_append] at shorter

end Stencil.Expression
