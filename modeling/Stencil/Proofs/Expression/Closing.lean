import Stencil.Proofs.Expression.Writing

/-!
# The search for a closing bracket and the splitting of what it encloses

The search for the bracket that closes another one and the splitting of an argument list meet the
same quotes and brackets. Up to the closing bracket the search stands where a scan of the enclosed
text alone stands, with one more closer due beneath, and it ends where that scan is outside of
everything. So the enclosed text can be split; a call that starts one of its arguments is closed
within the argument; and what the brackets of that call enclose can be split in turn. Nothing but an
argument itself can then be refused: a literal that does not end with its quote, or a text after a
call.
-/

namespace Stencil.Expression

open Outcome (FailsOnly)

/-- A separator outside of quotes and brackets leads outside of everything. -/
theorem Step.eq_start {place place' : Place} {c : Char} (step : Step place c place')
    (parts : place.Parts c) : place' = .start := by
  obtain ⟨noQuote, nothingDue, separates⟩ := parts
  obtain ⟨notQuote, opensNot, closesNot, notWord⟩ := separator_plain separates
  cases step with
  | quoted => cases noQuote
  | quote opens => simp [notQuote] at opens
  | opens bracket => simp [opensNot] at bracket
  | closes => cases nothingDue
  | plain =>
    obtain rfl : _ = [] := nothingDue
    rw [notWord]
    rfl

/-- A text whose scan ends outside of everything can be split. -/
theorem Scans.exists_splits {place final : Place} {text : List Char}
    (scans : Scans place text final) (noQuote : final.quote = none) (nothingDue : final.due = []) :
    ∃ pieces, Splits place text pieces := by
  induction scans with
  | @nil place =>
    obtain ⟨quote, due, afterWord⟩ := place
    obtain rfl : quote = none := noQuote
    obtain rfl : due = [] := nothingDue
    exact ⟨[[]], .done⟩
  | guarded _ ih =>
    obtain ⟨pieces, splits⟩ := ih noQuote nothingDue
    exact ⟨_, .guarded splits⟩
  | @step place place' final c rest one _ ih =>
    obtain ⟨pieces, splits⟩ := ih noQuote nothingDue
    by_cases parts : place.Parts c
    · obtain rfl := one.eq_start parts
      obtain ⟨quote, due, afterWord⟩ := place
      obtain ⟨rfl, rfl, separates⟩ := parts
      exact ⟨_, .separator separates splits⟩
    · exact ⟨_, .step one parts splits⟩

/-- Such a text has arguments, and each of them is a piece. -/
theorem Scans.exists_splitArguments {text : List Char} {last : Bool}
    (scans : Scans .start text ⟨none, [], last⟩) :
    ∃ arguments, splitArguments text = .ok arguments ∧
      ∀ argument ∈ arguments, IsPiece argument := by
  obtain ⟨pieces, splits⟩ := scans.exists_splits rfl rfl
  have split := splits.splitPieces_eq
  exact ⟨_, splitArguments_eq_ok_iff.mpr split, fun _ => isPiece_of_splitPieces split⟩

/-- After `n` characters a text comes to a closing bracket, and up to there it is scanned to its
end. -/
def ClosesAt (close : Char) (place : Place) (text : List Char) (n : Nat) : Prop :=
  ∃ inside more last, text = inside ++ close :: more ∧ n = inside.length ∧
    Scans place inside ⟨none, [], last⟩

namespace ClosesAt

variable {close c : Char} {place place' : Place} {rest : List Char} {n : Nat}

/-- One step before the way to the closing bracket. -/
theorem step (one : Step place c place') (closes : ClosesAt close place' rest n) :
    ClosesAt close place (c :: rest) (n + 1) := by
  obtain ⟨inside, more, last, rfl, rfl, scans⟩ := closes
  exact ⟨c :: inside, more, last, rfl, rfl, .step one scans⟩

/-- A protected character before the way to the closing bracket. -/
theorem guarded {quote : Char} {due : List Char} {afterWord : Bool}
    (closes : ClosesAt close ⟨some quote, due, false⟩ rest n) :
    ClosesAt close ⟨some quote, due, afterWord⟩ ('\\' :: c :: rest) (n + 2) := by
  obtain ⟨inside, more, last, rfl, rfl, scans⟩ := closes
  exact ⟨'\\' :: c :: inside, more, last, rfl, rfl, .guarded scans⟩

end ClosesAt

/-- The search finds the closing bracket that is due beneath where the scan without it ends. -/
theorem closesAt_of_closingFrom {quote : Option Char} {due text : List Char} {afterWord : Bool}
    {n : Nat} (found : closingFrom quote due afterWord text = .ok n) {inner : List Char}
    {close : Char} (isDue : due = inner ++ [close]) :
    ClosesAt close ⟨quote, inner, afterWord⟩ text n := by
  fun_induction closingFrom quote due afterWord text generalizing n inner with
  | case1 => cases found
  | case2 => cases found
  | case3 due afterWord quote c rest ih =>
    obtain ⟨m, later, rfl⟩ := Outcome.exists_of_map_eq_ok found
    exact (ih later isDue).guarded
  | case4 due afterWord c rest quote notBackslash ih =>
    obtain ⟨m, later, rfl⟩ := Outcome.exists_of_map_eq_ok found
    exact (ih later isDue).step (.quoted notBackslash)
  | case5 due afterWord c rest opens ih =>
    obtain ⟨m, later, rfl⟩ := Outcome.exists_of_map_eq_ok found
    rw [Bool.and_eq_true, Bool.not_eq_true'] at opens
    obtain ⟨opens, rfl⟩ := opens
    exact (ih later isDue).step (.quote opens)
  | case6 due afterWord c rest _ inward bracket ih =>
    obtain ⟨m, later, rfl⟩ := Outcome.exists_of_map_eq_ok found
    have beneath : inward :: due = (inward :: inner) ++ [close] := congrArg _ isDue
    exact (ih later beneath).step (.opens bracket)
  | case7 => cases found
  | case8 afterWord rest c =>
    cases found
    -- the bracket closes the last one that is open, so nothing was due above it
    cases inner with
    | nil =>
      cases isDue
      exact ⟨[], rest, afterWord, rfl, rfl, .nil⟩
    | cons d inner => simp at isDue
  | case9 => cases found
  | case10 afterWord rest c below several _ _ closes ih =>
    obtain ⟨m, later, rfl⟩ := Outcome.exists_of_map_eq_ok found
    cases inner with
    | nil =>
      cases isDue
      exact absurd rfl several
    | cons d inner =>
      obtain ⟨rfl, rfl⟩ := List.cons.inj isDue
      exact (ih later rfl).step (.closes closes)
  | case11 => cases found
  | case12 due afterWord c rest notQuote opensNot closesNot ih =>
    obtain ⟨m, later, rfl⟩ := Outcome.exists_of_map_eq_ok found
    rw [Bool.not_eq_true] at notQuote closesNot
    exact (ih later isDue).step (.plain notQuote opensNot closesNot)

/-- An opening bracket makes its closer due. -/
theorem closingFrom_opening {c close : Char} (bracket : closer? c = some close) (due : List Char)
    (afterWord : Bool) (rest : List Char) :
    closingFrom none due afterWord (c :: rest) =
      (closingFrom none (close :: due) false rest).map (· + 1) :=
  closingFrom_step (.opens bracket) (List.cons_ne_nil close due) rest

/-- What stands between a bracket and the one that closes it is scanned to its end. -/
theorem scans_enclosed {c close : Char} (bracket : closer? c = some close) {afterWord : Bool}
    {rest : List Char} {n : Nat} (found : closingFrom none [] afterWord (c :: rest) = .ok n) :
    0 < n ∧ ∃ last, Scans .start (rest.take (n - 1)) ⟨none, [], last⟩ := by
  rw [closingFrom_opening bracket] at found
  obtain ⟨m, later, rfl⟩ := Outcome.exists_of_map_eq_ok found
  have closes : ClosesAt close .start rest m := closesAt_of_closingFrom later rfl
  obtain ⟨inside, more, last, rfl, rfl, scans⟩ := closes
  refine ⟨Nat.succ_pos _, last, ?_⟩
  rwa [Nat.add_sub_cancel, List.take_left]

/-- What stands between the bracket at an index and the one that is found to close it is scanned to
its end. -/
theorem scans_of_findClosing {text : List Char} {start close : Nat} {c closer : Char}
    (bracket : closer? c = some closer) (there : text[start]? = some c)
    (found : findClosing text start = .ok close) :
    ∃ last, Scans .start ((text.take close).drop (start + 1)) ⟨none, [], last⟩ := by
  obtain ⟨inside, rfl⟩ := List.getElem?_eq_some_iff.mp there
  have opened : text.drop start = text[start] :: text.drop (start + 1) :=
    List.drop_eq_getElem_cons inside
  unfold findClosing at found
  rw [opened] at found
  split at found
  · next n search =>
    cases found
    obtain ⟨positive, last, scans⟩ := scans_enclosed bracket search
    have between : start + n - (start + 1) = n - 1 := by omega
    refine ⟨last, ?_⟩
    rwa [List.drop_take, between]
  · cases found

/-- The search from the bracket of a call does not look at the name before it. -/
theorem exists_findClosing_iff (name rest : List Char) :
    (∃ close, findClosing (name ++ '(' :: rest) name.length = .ok close) ↔
      ∃ n, closingFrom none [] false ('(' :: rest) = .ok n := by
  have same (afterWord : Bool) : closingFrom none [] afterWord ('(' :: rest) =
      closingFrom none [] false ('(' :: rest) := by
    rw [closingFrom_opening rfl, closingFrom_opening rfl]
  unfold findClosing
  rw [List.drop_left, same]
  cases closingFrom none [] false ('(' :: rest) <;> simp

/-- A scan that leaves nothing due comes to the end of the search for the outermost closing
bracket. -/
theorem Scans.exists_closingFrom {place final : Place} {text : List Char}
    (scans : Scans place text final) (isOpen : place.due ≠ []) (nothingDue : final.due = []) :
    ∃ n, closingFrom place.quote place.due place.afterWord text = .ok n := by
  induction scans with
  | nil => exact absurd nothingDue isOpen
  | guarded _ ih =>
    obtain ⟨n, found⟩ := ih isOpen nothingDue
    exact ⟨n + 2, by simp [closingFrom, found]⟩
  | @step place place' final c rest one _ ih =>
    by_cases stillOpen : place'.due = []
    · cases one with
      | quoted => exact absurd stillOpen isOpen
      | quote => exact absurd stillOpen isOpen
      | opens => cases stillOpen
      | closes closes =>
        obtain rfl : _ = [] := stillOpen
        obtain ⟨notQuote, opensNot⟩ := of_isCloser closes
        exact ⟨0, by simp [closingFrom, notQuote, opensNot, closes]⟩
      | plain => exact absurd stillOpen isOpen
    · obtain ⟨n, found⟩ := ih stillOpen nothingDue
      exact ⟨n + 1, by rw [closingFrom_step one stillOpen, found]; rfl⟩

/-- A character of a bare word changes nothing but what came just before. -/
theorem Step.eq_of_isWordChar {due : List Char} {afterWord : Bool} {c : Char} {place : Place}
    (step : Step ⟨none, due, afterWord⟩ c place) (isWordChar : IsWordChar c) :
    place = ⟨none, due, Text.isAlphanumeric c⟩ := by
  obtain ⟨-, noMark⟩ := isWordChar
  simp only [List.mem_cons, List.not_mem_nil, or_false, not_or] at noMark
  obtain ⟨h1, h2, h3, h4, h5, h6⟩ := noMark
  cases step with
  | quote opens => simp [isQuote, h5, h6] at opens
  | opens bracket => simp [closer?_eq_none h1 h3] at bracket
  | closes closes => simp [isCloser, h2, h4] at closes
  | plain => rfl

/-- A scan goes on behind a bare word as it went before it. -/
theorem Scans.behind_word {word more : List Char} (plain : ∀ c ∈ word, IsWordChar c)
    {due : List Char} {afterWord : Bool} {final : Place}
    (scans : Scans ⟨none, due, afterWord⟩ (word ++ more) final) :
    ∃ last, Scans ⟨none, due, last⟩ more final := by
  induction word generalizing afterWord with
  | nil => exact ⟨afterWord, scans⟩
  | cons c word ih =>
    obtain ⟨first, others⟩ := List.forall_mem_cons.mp plain
    cases scans with
    | step one later =>
      obtain rfl := one.eq_of_isWordChar first
      exact ih others later

/-- The bracket of a call that starts a piece is closed within the piece. -/
theorem IsPiece.exists_closingFrom {name rest : List Char} (isName : IsName name)
    (isPiece : IsPiece (name ++ '(' :: rest)) :
    ∃ n, closingFrom none [] false ('(' :: rest) = .ok n := by
  obtain ⟨-, last, solid⟩ := isPiece
  have plain : ∀ c ∈ name, IsWordChar c := fun c among => isWordChar_of_isNameChar (isName.all c among)
  obtain ⟨afterWord, scans⟩ := solid.scans.behind_word plain
  cases scans with
  | step one later =>
    cases one with
    | quote opens => cases opens
    | @opens _ close _ _ bracket =>
      obtain ⟨n, found⟩ := later.exists_closingFrom (List.cons_ne_nil close []) rfl
      exact ⟨n + 1, by rw [closingFrom_opening bracket, found]; rfl⟩
    | plain _ opensNot => cases opensNot

/-- An error about a single argument: a literal that starts with a quote and does not end with it, or
a call with more text behind it. -/
def IsAboutArgument (e : Error) : Prop :=
  ∃ problem argument, e = .expression problem argument ∧
    problem.wording ∈ ["Unterminated string argument", "Unexpected text after function call"]

/-- What a call encloses is scanned to its end. -/
theorem scans_of_enclosed? {rest inner : List Char}
    (encloses : enclosed? ('(' :: rest) = .ok (some inner)) :
    ∃ last, Scans .start inner ⟨none, [], last⟩ := by
  obtain ⟨n, found, ends⟩ := Outcome.exists_of_map_eq_ok encloses
  obtain ⟨-, last, scans⟩ := scans_enclosed rfl found
  split at ends
  · cases ends
    exact ⟨last, scans⟩
  · cases ends

/-- What an argument that is a call encloses is scanned to its end. -/
theorem scans_of_shapeOf {argument inner : List Char} {name : String}
    (shape : shapeOf argument = .ok (.call name inner)) :
    ∃ last, Scans .start inner ⟨none, [], last⟩ := by
  unfold shapeOf at shape
  split at shape
  · cases shape
  · split at shape
    · unfold unquoted at shape
      split at shape <;> cases shape
    · split at shape
      · cases shape
      · split at shape
        · cases shape
        · next head =>
          obtain ⟨-, rest, rfl, -⟩ := exists_of_callHead? head
          split at shape
          · cases shape
          · cases shape
          · next encloses =>
            cases shape
            exact scans_of_enclosed? encloses

/-- A piece is refused with an error about an argument only. -/
theorem IsPiece.isAboutArgument_of_shapeOf {argument : List Char} (isPiece : IsPiece argument) :
    FailsOnly IsAboutArgument (shapeOf argument) := by
  unfold shapeOf
  split
  · exact .ok _
  · split
    · unfold unquoted
      split
      · exact .error ⟨_, _, rfl, List.mem_cons_self⟩
      · exact .ok _
    · split
      · exact .ok _
      · split
        · exact .ok _
        · next head =>
          obtain ⟨isName, rest, rfl, isCall⟩ := exists_of_callHead? head
          rw [isCall] at isPiece
          obtain ⟨n, found⟩ := isPiece.exists_closingFrom isName
          split
          · next refused =>
            rw [enclosed?, found] at refused
            cases refused
          · exact .error ⟨_, _, rfl, List.mem_cons_of_mem _ List.mem_cons_self⟩
          · exact .ok _

/-- Pieces are refused with an error about an argument only: what the calls among them enclose can
be split into pieces. -/
theorem isAboutArgument_of_argumentTokens {arguments : List (List Char)}
    (pieces : ∀ argument ∈ arguments, IsPiece argument) :
    FailsOnly IsAboutArgument (argumentTokens arguments) := by
  fun_induction argumentTokens arguments with
  | case1 => exact .ok _
  | case2 argument rest e refused =>
    exact .error ((pieces argument List.mem_cons_self).isAboutArgument_of_shapeOf e refused)
  | case3 argument rest token shape ih => exact (ih (List.forall_mem_cons.mp pieces).2).map _
  | case4 argument rest name inner shape e refused =>
    obtain ⟨last, scans⟩ := scans_of_shapeOf shape
    obtain ⟨inside, split, -⟩ := scans.exists_splitArguments
    rw [split] at refused
    cases refused
  | case5 argument rest name inner shape inside split inside_ih rest_ih =>
    obtain ⟨last, scans⟩ := scans_of_shapeOf shape
    obtain ⟨found, split', insidePieces⟩ := scans.exists_splitArguments
    obtain rfl := Except.ok.inj (split.symm.trans split')
    have others := rest_ih (List.forall_mem_cons.mp pieces).2
    exact (inside_ih insidePieces).bind fun tokens => others.bind fun after => .ok _

/-- An expression whose call is closed is refused with an error about an argument only. -/
theorem isAboutArgument_of_tokenize {expression : String} {name rest : List Char} {n : Nat}
    (isName : IsName name) (isCall : Text.trim expression.toList = name ++ '(' :: rest)
    (found : closingFrom none [] false ('(' :: rest) = .ok n) :
    FailsOnly IsAboutArgument (tokenize expression) := by
  have head := callHead?_append isName rest
  have notPath : (name ++ '(' :: rest).head? ≠ some '$' := by
    obtain ⟨c, more, rfl, starts⟩ := isName.exists_eq_cons
    simpa using (isNameStart_plain starts).2
  unfold tokenize
  simp only [isCall, notPath, if_false, head]
  split
  · next refused =>
    rw [enclosed?, found] at refused
    cases refused
  · exact .ok _
  · next encloses =>
    obtain ⟨last, scans⟩ := scans_of_enclosed? encloses
    obtain ⟨arguments, split, pieces⟩ := scans.exists_splitArguments
    rw [callTokens, split, Outcome.ok_bind]
    exact (isAboutArgument_of_argumentTokens pieces).bind fun tokens => .ok _

/-- Where the search finds the bracket that closes another one, what stands between the two can be
split into arguments, and the bracket of every call that starts one of them is closed within it. So
an expression whose call is closed is refused with an error about an argument only. -/
theorem splits_and_closes_of_findClosing :
    (∀ (text : List Char) (start close : Nat),
      text[start]? = some '(' ∨ text[start]? = some '[' → findClosing text start = .ok close →
        ∃ arguments, splitArguments ((text.take close).drop (start + 1)) = .ok arguments ∧
          ∀ name rest, IsName name → name ++ '(' :: rest ∈ arguments →
            ∃ n, findClosing (name ++ '(' :: rest) name.length = .ok n) ∧
    ∀ (expression : String) (name rest : List Char) (close : Nat), IsName name →
      Text.trim expression.toList = name ++ '(' :: rest →
        findClosing (name ++ '(' :: rest) name.length = .ok close →
          ∀ e, tokenize expression = .error e → IsAboutArgument e := by
  constructor
  · intro text start close opens found
    have enclosed : ∃ last, Scans .start ((text.take close).drop (start + 1)) ⟨none, [], last⟩ := by
      rcases opens with round | square
      · exact scans_of_findClosing rfl round found
      · exact scans_of_findClosing rfl square found
    obtain ⟨last, scans⟩ := enclosed
    obtain ⟨arguments, split, pieces⟩ := scans.exists_splitArguments
    refine ⟨arguments, split, fun name rest isName among => ?_⟩
    exact (exists_findClosing_iff name rest).mpr ((pieces _ among).exists_closingFrom isName)
  · intro expression name rest close isName isCall found
    obtain ⟨n, search⟩ := (exists_findClosing_iff name rest).mp ⟨close, found⟩
    exact isAboutArgument_of_tokenize isName isCall search

/-- Arguments with a bracket in quotes, an index, an apostrophe and a call with more text behind it,
which refuses the whole. -/
theorem splits_and_closes_of_findClosing_nested :
    (findClosing "f(g('a)', x[1]) it's, h(2)k)".toList 1 = .ok 27 ∧
      ∃ arguments, splitArguments "g('a)', x[1]) it's, h(2)k".toList = .ok arguments ∧
        ∀ name rest, IsName name → name ++ '(' :: rest ∈ arguments →
          ∃ n, findClosing (name ++ '(' :: rest) name.length = .ok n) ∧
    findClosing "f(h(2)k)".toList 1 = .ok 7 ∧
      ∃ e, tokenize "f(h(2)k)" = .error e ∧ IsAboutArgument e := by
  have found : findClosing "f(g('a)', x[1]) it's, h(2)k)".toList 1 = .ok 27 :=
    Outcome.toOption_eq_some_iff.mp (by decide +kernel)
  have between : ("f(g('a)', x[1]) it's, h(2)k)".toList.take 27).drop 2 =
      "g('a)', x[1]) it's, h(2)k".toList := by decide
  have splits := splits_and_closes_of_findClosing.1 _ 1 27 (.inl (by decide)) found
  rw [between] at splits
  have closed : findClosing "f(h(2)k)".toList 1 = .ok 7 :=
    Outcome.toOption_eq_some_iff.mp (by decide +kernel)
  have isName : IsName ['f'] := ⟨⟨'f', by decide⟩, List.forall_mem_singleton.mpr (by decide)⟩
  have isCall : Text.trim "f(h(2)k)".toList = ['f'] ++ '(' :: "h(2)k)".toList := by decide +kernel
  have noTokens : (tokenize "f(h(2)k)").toOption = none := by decide +kernel
  refine ⟨⟨found, splits⟩, closed, ?_⟩
  cases refused : tokenize "f(h(2)k)" with
  | error e =>
    exact ⟨e, rfl, splits_and_closes_of_findClosing.2 _ _ _ 7 isName isCall closed e refused⟩
  | ok tokens =>
    rw [refused] at noTokens
    cases noTokens

end Stencil.Expression
