import Stencil.Expression.Token
import Stencil.Proofs.Expression.Split

/-!
# Laws of tokens

The tokens of arguments, one argument after the other, and what a call looks like to the scanners:
its head is found, its brackets enclose the arguments, and its shape is a call.
-/

namespace Stencil.Expression

/-- The tokens of an argument of the given shape. -/
def Shape.tokens : Shape → Except Error (List Token)
  | .leaf token => .ok [token]
  | .call name inner => callTokens name.toList inner

/-- The tokens of arguments are those of the first one and then those of the others. -/
theorem argumentTokens_cons (argument : List Char) (rest : List (List Char)) :
    argumentTokens (argument :: rest) = (do
      let inside ← (← shapeOf argument).tokens
      let after ← argumentTokens rest
      return inside ++ after) := by
  rw [argumentTokens]
  cases shape : shapeOf argument with
  | error => rfl
  | ok found =>
    cases found with
    | leaf token =>
      simp only [Outcome.ok_bind, Shape.tokens]
      cases argumentTokens rest <;> rfl
    | call name inner =>
      simp only [Outcome.ok_bind, Shape.tokens, callTokens]
      cases split : splitArguments inner with
      | error => rfl
      | ok pieces =>
        simp only [Outcome.ok_bind, String.ofList_toList]
        cases argumentTokens pieces with
        | error => rfl
        | ok inside =>
          cases argumentTokens rest with
          | error => rfl
          | ok after =>
            simp [pure, Except.pure]

/-- Splitting that succeeds gives its pieces. -/
theorem splitArguments_eq_ok_iff {text : List Char} {pieces : List (List Char)} :
    splitArguments text = .ok pieces ↔ splitPieces text = .ok pieces := by
  unfold splitArguments
  cases splitPieces text <;> simp

/-- A function's name: a letter or underscore, then letters, digits and underscores. -/
structure IsName (name : List Char) : Prop where
  /-- The first character. -/
  starts : ∃ c ∈ name.head?, isNameStart c
  /-- All characters. -/
  all : ∀ c ∈ name, isNameChar c

/-- A name has a first character. -/
theorem IsName.exists_eq_cons {name : List Char} (isName : IsName name) :
    ∃ c rest, name = c :: rest ∧ isNameStart c := by
  obtain ⟨c, first, starts⟩ := isName.starts
  cases name with
  | nil => cases first
  | cons d rest =>
    cases first
    exact ⟨c, rest, rfl, starts⟩

/-- The first character of a name is neither a quote nor that of a path. -/
theorem isNameStart_plain {c : Char} (starts : isNameStart c) : isQuote c = false ∧ c ≠ '$' := by
  constructor
  · rw [Bool.eq_false_iff]
    intro quote
    simp only [isQuote, Bool.or_eq_true, decide_eq_true_eq] at quote
    rcases quote with rfl | rfl <;> revert starts <;> decide
  · rintro rfl
    revert starts
    decide

/-- A call starts with its name. -/
theorem callHead?_append {name : List Char} (isName : IsName name) (rest : List Char) :
    callHead? (name ++ '(' :: rest) = some (name, '(' :: rest) := by
  obtain ⟨c, more, rfl, starts⟩ := isName.exists_eq_cons
  have ends : isNameChar '(' = false := by decide
  have taken : (c :: more ++ '(' :: rest).takeWhile isNameChar = c :: more := by
    rw [List.takeWhile_append_of_pos isName.all, List.takeWhile_cons_of_neg (by simp [ends])]
    simp
  have dropped : (c :: more ++ '(' :: rest).dropWhile isNameChar = '(' :: rest := by
    rw [List.dropWhile_append_of_pos isName.all, List.dropWhile_cons_of_neg (by simp [ends])]
  rw [List.cons_append] at taken dropped ⊢
  simp only [callHead?, starts, if_true, dropped, taken]

/-- The call that a text starts with is a name and what follows it from its bracket on. -/
theorem exists_of_callHead? {text name opened : List Char}
    (found : callHead? text = some (name, opened)) :
    IsName name ∧ ∃ rest, opened = '(' :: rest ∧ text = name ++ '(' :: rest := by
  unfold callHead? at found
  split at found
  · cases found
  · next c cs =>
    split at found
    · next starts =>
      split at found
      · next rest isOpened =>
        cases found
        have begins : isNameChar c = true := by
          simp only [isNameStart, isNameChar, Char.isAlphanum, Bool.or_eq_true] at starts ⊢
          exact starts.imp_left .inl
        refine ⟨⟨⟨c, ?_, starts⟩, fun d among => ?_⟩, rest, rfl, ?_⟩
        · rw [List.takeWhile_cons_of_pos begins]
          exact List.head?_cons
        · exact List.all_eq_true.mp List.all_takeWhile d among
        · rw [← isOpened, List.takeWhile_append_dropWhile]
      · cases found
    · cases found

/-- A text starts with no call exactly if no name at its start is directly followed by an opening
bracket. -/
theorem callHead?_eq_none_iff {text : List Char} :
    callHead? text = none ↔ ¬∃ name rest, IsName name ∧ text = name ++ '(' :: rest := by
  constructor
  · rintro none ⟨name, rest, isName, rfl⟩
    rw [callHead?_append isName] at none
    cases none
  · intro noCall
    cases found : callHead? text with
    | none => rfl
    | some head =>
      obtain ⟨isName, rest, -, isCall⟩ := exists_of_callHead? found
      exact absurd ⟨head.1, rest, isName, isCall⟩ noCall

/-- A text without an opening bracket is no call. -/
theorem callHead?_eq_none {text : List Char} (h : '(' ∉ text) : callHead? text = none := by
  unfold callHead?
  split
  · rfl
  · next c rest =>
    split
    · split
      · next opened heq =>
        have suffix : '(' :: opened <:+ c :: rest := heq ▸ List.dropWhile_suffix isNameChar
        exact absurd (suffix.mem List.mem_cons_self) h
      · rfl
    · rfl

/-- A bracket pair around a text that is scanned as a whole encloses it. -/
theorem enclosed?_bracketed {inside : List Char} {last : Bool}
    (scans : Scans .start inside ⟨none, [], last⟩) :
    enclosed? ('(' :: inside ++ [')']) = .ok (some inside) := by
  have closes : closingFrom none [')'] last [')'] = .ok 0 := by cases last <;> rfl
  have found : closingFrom none [')'] false (inside ++ [')']) = .ok inside.length := by
    have passed := scans.closingFrom_append (List.cons_ne_nil ')' []) [')']
    simp only [Place.start, List.nil_append] at passed
    rw [passed, closes]
    rfl
  have opens : closingFrom none [] false ('(' :: inside ++ [')']) = .ok (inside.length + 1) := by
    have opening : Step .start '(' ⟨none, [')'], false⟩ := .opens rfl
    have step := closingFrom_step opening (List.cons_ne_nil ')' []) (inside ++ [')'])
    simp only [Place.start] at step
    rw [List.cons_append, step, found]
    rfl
  rw [enclosed?, opens]
  simp

/-- A name and brackets around a text that is scanned as a whole have the shape of a call. -/
theorem shapeOf_call {name inside : List Char} (isName : IsName name) {last : Bool}
    (scans : Scans .start inside ⟨none, [], last⟩) :
    shapeOf (name ++ '(' :: inside ++ [')']) = .ok (.call (String.ofList name) inside) := by
  have head := callHead?_append isName (inside ++ [')'])
  have encloses := enclosed?_bracketed scans
  obtain ⟨c, rest, rfl, starts⟩ := isName.exists_eq_cons
  obtain ⟨notQuote, notPath⟩ := isNameStart_plain starts
  simp only [List.append_assoc, List.cons_append] at head encloses ⊢
  simp [shapeOf, notQuote, notPath, head, encloses]

/-- An error about an expression that cannot be split into tokens. -/
def IsSyntax (e : Error) : Prop := ∃ problem text, e = .expression problem text

/-- An argument list is refused with such an error. -/
theorem isSyntax_of_splitArguments (text : List Char) :
    Outcome.FailsOnly IsSyntax (splitArguments text) := by
  unfold splitArguments
  split
  · exact .ok _
  · exact .error ⟨_, _, rfl⟩

/-- An argument is refused with such an error. -/
theorem isSyntax_of_shapeOf (argument : List Char) :
    Outcome.FailsOnly IsSyntax (shapeOf argument) := by
  unfold shapeOf
  split
  · exact .ok _
  · split
    · unfold unquoted
      split
      · exact .error ⟨_, _, rfl⟩
      · exact .ok _
    · split
      · exact .ok _
      · split
        · exact .ok _
        · split
          · exact .error ⟨_, _, rfl⟩
          · exact .error ⟨_, _, rfl⟩
          · exact .ok _

/-- Arguments are refused with such an error. -/
theorem isSyntax_of_argumentTokens (arguments : List (List Char)) :
    Outcome.FailsOnly IsSyntax (argumentTokens arguments) := by
  fun_induction argumentTokens arguments with
  | case1 => exact .ok _
  | case2 argument rest e refused => exact .error (isSyntax_of_shapeOf argument e refused)
  | case3 argument rest token shape ih => exact ih.map _
  | case4 argument rest name inner shape e refused =>
    exact .error (isSyntax_of_splitArguments inner e refused)
  | case5 argument rest name inner shape pieces split inside_ih rest_ih =>
    exact inside_ih.bind fun inside => rest_ih.bind fun after => .ok _

/-- An expression is refused with such an error. -/
theorem isSyntax_of_tokenize (expression : String) :
    Outcome.FailsOnly IsSyntax (tokenize expression) := by
  unfold tokenize
  dsimp only
  split
  · exact .ok _
  · split
    · exact .ok _
    · split
      · exact .error ⟨_, _, rfl⟩
      · exact .ok _
      · next name opened heads inner encloses =>
        refine (isSyntax_of_splitArguments inner).bind fun pieces => ?_
        exact (isSyntax_of_argumentTokens pieces).bind fun inside => .ok _

end Stencil.Expression
