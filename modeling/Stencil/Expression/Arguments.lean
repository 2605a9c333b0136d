import Stencil.Error
import Stencil.Text.Alphanumeric
import Stencil.Text.Blank

/-!
# Brackets, quotes and argument lists in expressions

Round and square brackets nest, and brackets inside quotes do not count. A quote opens a quoted
stretch unless it directly follows a letter or digit, as the apostrophe of a word does; inside a
quoted stretch a backslash protects the character after it.

An argument list is split at the commas and blanks that stand outside of brackets and quotes. Runs
of such separators count as one, so no argument is empty.
-/

namespace Stencil.Expression

/-- A character that may open a quoted stretch. -/
def isQuote (c : Char) : Bool := c = '\'' || c = '"'

/-- The bracket that closes an opening one. -/
def closer? (c : Char) : Option Char :=
  match c with
  | '(' => some ')'
  | '[' => some ']'
  | _ => none

/-- A bracket that closes another one. -/
def isCloser (c : Char) : Bool := c = ')' || c = ']'

/-- How many characters stand before the bracket that closes the outermost open one. The scan is
inside the given quote, if any; `due` lists the closers that are due, innermost first; `afterWord`
says whether a letter or digit came just before. -/
def closingFrom (quote : Option Char) (due : List Char) (afterWord : Bool) :
    List Char → Except SyntaxProblem Nat
  | [] => .error (if quote.isSome then .unterminated else .missingParenthesis)
  | c :: rest =>
    match quote with
    | some q =>
      if c = '\\' then
        match rest with
        | [] => .error .unterminated
        | _ :: after => (closingFrom (some q) due false after).map (· + 2)
      else (closingFrom (if c = q then none else some q) due false rest).map (· + 1)
    | none =>
      if isQuote c && !afterWord then (closingFrom (some c) due false rest).map (· + 1)
      else
        match closer? c with
        | some close => (closingFrom none (close :: due) false rest).map (· + 1)
        | none =>
          if isCloser c then
            match due with
            | [] => .error (.unexpected c)
            | [last] => if last = c then .ok 0 else .error (.unexpected c)
            | top :: below =>
              if top = c then (closingFrom none below false rest).map (· + 1)
              else .error (.unexpected c)
          else (closingFrom none due (Text.isAlphanumeric c) rest).map (· + 1)

/-- Whether the last character of a text is a letter or digit. -/
def endsInWord (cs : List Char) : Bool := (cs.getLast?.map Text.isAlphanumeric).getD false

/-- The index of the bracket that closes the one at `start`. -/
def findClosing (text : List Char) (start : Nat) : Except Error Nat :=
  match closingFrom none [] (endsInWord (text.take start)) (text.drop start) with
  | .ok n => .ok (start + n)
  | .error problem => .error (.expression problem (String.ofList text))

/-- A character between two arguments. -/
def isSeparator (c : Char) : Bool := c = ',' || Text.isBlank c

/-- Puts a character in front of the first argument. -/
def extend (c : Char) : List (List Char) → List (List Char)
  | [] => [[c]]
  | argument :: rest => (c :: argument) :: rest

/-- The pieces of the rest of an argument list. The first piece belongs to the argument at hand and
is empty at its end; the state of the scan is the one of `closingFrom`. -/
def splitFrom (quote : Option Char) (due : List Char) (afterWord : Bool) :
    List Char → Except SyntaxProblem (List (List Char))
  | [] =>
    if quote.isSome then .error .unterminated
    else if due.isEmpty then .ok [[]] else .error .unbalanced
  | c :: rest =>
    match quote with
    | some q =>
      if c = '\\' then
        match rest with
        | [] => .error .unterminated
        | d :: after => ((splitFrom (some q) due false after).map (extend d)).map (extend c)
      else (splitFrom (if c = q then none else some q) due false rest).map (extend c)
    | none =>
      if due.isEmpty && isSeparator c then (splitFrom none due false rest).map ([] :: ·)
      else if isQuote c && !afterWord then (splitFrom (some c) due false rest).map (extend c)
      else
        match closer? c with
        | some close => (splitFrom none (close :: due) false rest).map (extend c)
        | none =>
          if isCloser c then
            match due with
            | [] => .error (.unexpected c)
            | top :: below =>
              if top = c then (splitFrom none below false rest).map (extend c)
              else .error (.unexpected c)
          else (splitFrom none due (Text.isAlphanumeric c) rest).map (extend c)

/-- The arguments of an argument list. -/
def splitPieces (text : List Char) : Except SyntaxProblem (List (List Char)) :=
  (splitFrom none [] false text).map fun pieces => pieces.filter fun piece => !piece.isEmpty

/-- The arguments of an argument list, or the error for it. -/
def splitArguments (text : List Char) : Except Error (List (List Char)) :=
  match splitPieces text with
  | .ok pieces => .ok pieces
  | .error problem => .error (.expression problem (String.ofList text))

/-- The room that pieces take up with one separator after each. -/
def room : List (List Char) → Nat
  | [] => 0
  | piece :: rest => piece.length + 1 + room rest

/-- One more character takes one more place. -/
theorem room_extend (c : Char) {pieces : List (List Char)} (h : pieces ≠ []) :
    extend c pieces ≠ [] ∧ room (extend c pieces) = room pieces + 1 := by
  cases pieces with
  | nil => exact absurd rfl h
  | cons piece rest =>
    simp only [room, extend, List.length_cons]
    exact ⟨by simp, by omega⟩

/-- Pieces that fill `n` places fill one more with one more character. -/
theorem room_map_extend (c : Char) {n : Nat} {split : Except SyntaxProblem (List (List Char))}
    (fills : ∀ pieces, split = .ok pieces → pieces ≠ [] ∧ room pieces = n)
    (pieces : List (List Char)) (h : split.map (extend c) = .ok pieces) :
    pieces ≠ [] ∧ room pieces = n + 1 := by
  cases split with
  | error => simp [Except.map] at h
  | ok found =>
    simp only [Except.map, Except.ok.injEq] at h
    have grown := room_extend c (fills found rfl).1
    rw [h, (fills found rfl).2] at grown
    exact grown

/-- The pieces fill the text exactly, with a separator after each but the last. -/
theorem room_splitFrom (quote : Option Char) (due : List Char) (afterWord : Bool)
    (text : List Char) (pieces : List (List Char))
    (h : splitFrom quote due afterWord text = .ok pieces) :
    pieces ≠ [] ∧ room pieces = text.length + 1 := by
  fun_induction splitFrom quote due afterWord text generalizing pieces with
  | case1 => cases h
  | case2 => cases h; decide
  | case3 => cases h
  | case4 => cases h
  | case5 due afterWord close d after ih =>
    exact room_map_extend '\\' (room_map_extend d ih) pieces h
  | case6 due afterWord d after close hd ih => exact room_map_extend d ih pieces h
  | case7 due afterWord d after _ ih =>
    cases split : splitFrom none due false after with
    | error => simp [split, Except.map] at h
    | ok found =>
      simp only [split, Except.map, Except.ok.injEq] at h
      have := (ih found split).2
      subst h
      refine ⟨by simp, ?_⟩
      simp only [room, List.length_nil, List.length_cons] at this ⊢
      omega
  | case8 due afterWord d after _ _ ih => exact room_map_extend d ih pieces h
  | case9 due afterWord d after _ _ close _ ih => exact room_map_extend d ih pieces h
  | case10 => cases h
  | case11 afterWord after d below _ _ _ _ ih => exact room_map_extend d ih pieces h
  | case12 => cases h
  | case13 due afterWord d after _ _ _ _ ih => exact room_map_extend d ih pieces h

end Stencil.Expression
