import Stencil.Expression.Arguments
import Stencil.Proofs.Outcome
import Stencil.Proofs.Text.Blank

/-!
# Pieces of an argument list

The search for a closing bracket and the splitting of an argument list pass through the same
places: which quote is open, which closers are due, and whether a word character came just before.
One step from place to place is stated once here. A scan does the same beneath further open
brackets, so the search for a closing bracket passes over it.

Splitting is a relation between a text and its pieces, which the splitting function decides. A text
whose scan meets no separator outside of quotes and brackets stays in one piece, whatever follows
it; a run of separators gives no piece.
-/

namespace Stencil.Expression

/-- No other character than the two brackets opens. -/
theorem closer?_eq_none {c : Char} (notRound : c ≠ '(') (notSquare : c ≠ '[') :
    closer? c = none := by
  unfold closer?
  split
  · exact absurd rfl notRound
  · exact absurd rfl notSquare
  · rfl

/-- A quote is no opening bracket. -/
theorem closer?_of_isQuote {c : Char} (h : isQuote c) : closer? c = none := by
  simp only [isQuote, Bool.or_eq_true, decide_eq_true_eq] at h
  rcases h with rfl | rfl <;> rfl

/-- An opening bracket is no quote. -/
theorem isQuote_of_closer? {c close : Char} (h : closer? c = some close) : isQuote c = false := by
  cases quote : isQuote c with
  | false => rfl
  | true => rw [closer?_of_isQuote quote] at h; cases h

/-- A closing bracket is neither a quote nor an opening bracket. -/
theorem of_isCloser {c : Char} (h : isCloser c) : isQuote c = false ∧ closer? c = none := by
  simp only [isCloser, Bool.or_eq_true, decide_eq_true_eq] at h
  rcases h with rfl | rfl <;> decide

/-- Where a scan stands. -/
structure Place where
  /-- The quote of the quoted stretch that the scan is in. -/
  quote : Option Char
  /-- The closers that are due, innermost first. -/
  due : List Char
  /-- Whether a letter or digit came just before. -/
  afterWord : Bool
  deriving DecidableEq, Repr

namespace Place

/-- The place outside of everything. -/
def start : Place := ⟨none, [], false⟩

/-- The place with further closers due beneath all others. -/
def under (place : Place) (base : List Char) : Place := { place with due := place.due ++ base }

end Place

/-- One step of a scan over a character that is no protecting backslash. -/
inductive Step : Place → Char → Place → Prop
  /-- A quoted stretch goes on up to its own quote. -/
  | quoted {quote c : Char} {due : List Char} {afterWord : Bool} : c ≠ '\\' →
      Step ⟨some quote, due, afterWord⟩ c ⟨if c = quote then none else some quote, due, false⟩
  /-- A quote that follows no word opens a quoted stretch. -/
  | quote {c : Char} {due : List Char} : isQuote c →
      Step ⟨none, due, false⟩ c ⟨some c, due, false⟩
  /-- An opening bracket makes its closer due. -/
  | opens {c close : Char} {due : List Char} {afterWord : Bool} : closer? c = some close →
      Step ⟨none, due, afterWord⟩ c ⟨none, close :: due, false⟩
  /-- The closer that is due closes its bracket. -/
  | closes {c : Char} {due : List Char} {afterWord : Bool} : isCloser c →
      Step ⟨none, c :: due, afterWord⟩ c ⟨none, due, false⟩
  /-- Any other character stands for itself. -/
  | plain {c : Char} {due : List Char} {afterWord : Bool} : (isQuote c && !afterWord) = false →
      closer? c = none → isCloser c = false →
        Step ⟨none, due, afterWord⟩ c ⟨none, due, Text.isAlphanumeric c⟩

/-- A step does not look at the closers beneath those it pops. -/
theorem Step.under {place place' : Place} {c : Char} (step : Step place c place')
    (base : List Char) : Step (place.under base) c (place'.under base) := by
  cases step with
  | quoted plain => exact .quoted plain
  | quote opens => exact .quote opens
  | opens bracket => exact .opens bracket
  | closes bracket => exact .closes bracket
  | plain notQuote opensNot closesNot => exact .plain notQuote opensNot closesNot

/-- The search for the closing bracket follows a step that leaves a bracket open. -/
theorem closingFrom_step {place place' : Place} {c : Char} (step : Step place c place')
    (stillOpen : place'.due ≠ []) (rest : List Char) :
    closingFrom place.quote place.due place.afterWord (c :: rest) =
      (closingFrom place'.quote place'.due place'.afterWord rest).map (· + 1) := by
  cases step with
  | quoted notBackslash =>
    rw [closingFrom.eq_def]
    simp [notBackslash]
  | quote opens => simp [closingFrom, opens]
  | opens bracket => simp [closingFrom, isQuote_of_closer? bracket, bracket]
  | closes bracket =>
    obtain ⟨notQuote, opensNot⟩ := of_isCloser bracket
    simp [closingFrom, notQuote, opensNot, bracket]
  | plain notQuote opensNot closesNot => simp [closingFrom, notQuote, opensNot, closesNot]

/-- The scan of a text from a place to a place. -/
inductive Scans : Place → List Char → Place → Prop
  /-- No text leaves the place as it is. -/
  | nil {place : Place} : Scans place [] place
  /-- A backslash in a quoted stretch protects the next character. -/
  | guarded {quote c : Char} {due rest : List Char} {afterWord : Bool} {final : Place} :
      Scans ⟨some quote, due, false⟩ rest final →
        Scans ⟨some quote, due, afterWord⟩ ('\\' :: c :: rest) final
  /-- Any other character makes one step. -/
  | step {place place' final : Place} {c : Char} {rest : List Char} :
      Step place c place' → Scans place' rest final → Scans place (c :: rest) final

namespace Scans

/-- A scan goes on where the scan of the text before ends. -/
theorem append {place middle final : Place} {text more : List Char}
    (first : Scans place text middle) (second : Scans middle more final) :
    Scans place (text ++ more) final := by
  induction first with
  | nil => exact second
  | guarded _ ih => exact .guarded (ih second)
  | step one _ ih => exact .step one (ih second)

/-- The search for a closing bracket passes over what is scanned beneath open brackets. -/
theorem closingFrom_append {place final : Place} {text : List Char}
    (scans : Scans place text final) {base : List Char} (within : base ≠ []) (more : List Char) :
    closingFrom place.quote (place.due ++ base) place.afterWord (text ++ more) =
      (closingFrom final.quote (final.due ++ base) final.afterWord more).map
        (text.length + ·) := by
  induction scans with
  | @nil place =>
    cases h : closingFrom place.quote (place.due ++ base) place.afterWord more <;>
      simp [h, Except.map]
  | @guarded quote c due rest afterWord final _ ih =>
    simp only [List.cons_append, closingFrom, if_true, ih]
    cases closingFrom final.quote (final.due ++ base) final.afterWord more <;>
      simp [Except.map, Nat.add_right_comm]
  | @step place place' final c rest one _ ih =>
    have first := closingFrom_step (one.under base)
      (List.append_ne_nil_of_right_ne_nil _ within) (rest ++ more)
    simp only [Place.under] at first
    rw [List.cons_append, first, ih]
    cases closingFrom final.quote (final.due ++ base) final.afterWord more <;>
      simp [Except.map, Nat.add_right_comm]

end Scans

end Stencil.Expression

namespace Stencil.Expression

/-- Whether a character ends an argument. -/
def Place.Parts (place : Place) (c : Char) : Prop :=
  place.quote = none ∧ place.due = [] ∧ isSeparator c = true

/-- Outside of quotes a separator parts where no closer is due. -/
theorem Place.parts_iff {due : List Char} {afterWord : Bool} {c : Char} :
    Parts ⟨none, due, afterWord⟩ c ↔ (due.isEmpty && isSeparator c) = true := by
  simp [Parts]

/-- Splitting follows a step that does not end the argument. -/
theorem splitFrom_step {place place' : Place} {c : Char} (step : Step place c place')
    (within : ¬place.Parts c) (rest : List Char) :
    splitFrom place.quote place.due place.afterWord (c :: rest) =
      (splitFrom place'.quote place'.due place'.afterWord rest).map (extend c) := by
  cases step with
  | quoted notBackslash =>
    rw [splitFrom.eq_def]
    simp [notBackslash]
  | quote opens =>
    rw [Place.parts_iff, Bool.not_eq_true] at within
    simp [splitFrom, within, opens]
  | opens bracket =>
    rw [Place.parts_iff, Bool.not_eq_true] at within
    simp [splitFrom, within, isQuote_of_closer? bracket, bracket]
  | closes bracket =>
    obtain ⟨notQuote, opensNot⟩ := of_isCloser bracket
    simp [splitFrom, notQuote, opensNot, bracket]
  | plain notQuote opensNot closesNot =>
    rw [Place.parts_iff, Bool.not_eq_true] at within
    simp [splitFrom, within, notQuote, opensNot, closesNot]

/-- The pieces of a text, as splitting finds them from a place on. -/
inductive Splits : Place → List Char → List (List Char) → Prop
  /-- The end of the text outside of quotes and brackets. -/
  | done {afterWord : Bool} : Splits ⟨none, [], afterWord⟩ [] [[]]
  /-- A separator ends the piece at hand. -/
  | separator {c : Char} {rest : List Char} {afterWord : Bool} {pieces : List (List Char)} :
      isSeparator c → Splits .start rest pieces →
        Splits ⟨none, [], afterWord⟩ (c :: rest) ([] :: pieces)
  /-- A backslash in a quoted stretch protects the next character. -/
  | guarded {quote c : Char} {due rest : List Char} {afterWord : Bool}
      {pieces : List (List Char)} :
      Splits ⟨some quote, due, false⟩ rest pieces →
        Splits ⟨some quote, due, afterWord⟩ ('\\' :: c :: rest) (extend '\\' (extend c pieces))
  /-- Any other character belongs to the piece at hand. -/
  | step {place place' : Place} {c : Char} {rest : List Char} {pieces : List (List Char)} :
      Step place c place' → ¬place.Parts c → Splits place' rest pieces →
        Splits place (c :: rest) (extend c pieces)

/-- Splitting a text that begins with a separator. -/
theorem splitFrom_separator {c : Char} (separates : isSeparator c) (afterWord : Bool)
    (rest : List Char) :
    splitFrom none [] afterWord (c :: rest) = (splitFrom none [] false rest).map ([] :: ·) := by
  simp [splitFrom, separates]

/-- The pieces that the splitting function finds are those of the text. -/
theorem splits_of_splitFrom {quote : Option Char} {due text : List Char} {afterWord : Bool}
    {pieces : List (List Char)} (h : splitFrom quote due afterWord text = .ok pieces) :
    Splits ⟨quote, due, afterWord⟩ text pieces := by
  fun_induction splitFrom quote due afterWord text generalizing pieces with
  | case1 => cases h
  | case2 quote due afterWord notQuoted empty =>
    cases h
    rw [List.isEmpty_iff] at empty
    rw [Bool.not_eq_true, Option.isSome_eq_false_iff, Option.isNone_iff_eq_none] at notQuoted
    subst empty notQuoted
    exact .done
  | case3 => cases h
  | case4 => cases h
  | case5 due afterWord quote c rest ih =>
    obtain ⟨_, outer, rfl⟩ := Outcome.exists_of_map_eq_ok h
    obtain ⟨_, inner, rfl⟩ := Outcome.exists_of_map_eq_ok outer
    exact .guarded (ih inner)
  | case6 due afterWord c rest quote notBackslash ih =>
    obtain ⟨_, inner, rfl⟩ := Outcome.exists_of_map_eq_ok h
    exact .step (.quoted notBackslash) (by simp [Place.Parts]) (ih inner)
  | case7 due afterWord c rest parts ih =>
    obtain ⟨_, inner, rfl⟩ := Outcome.exists_of_map_eq_ok h
    rw [Bool.and_eq_true, List.isEmpty_iff] at parts
    obtain ⟨rfl, separates⟩ := parts
    exact .separator separates (ih inner)
  | case8 due afterWord c rest within opens ih =>
    obtain ⟨_, inner, rfl⟩ := Outcome.exists_of_map_eq_ok h
    rw [Bool.and_eq_true, Bool.not_eq_true'] at opens
    obtain ⟨opens, rfl⟩ := opens
    exact .step (.quote opens) (mt Place.parts_iff.mp within) (ih inner)
  | case9 due afterWord c rest within _ close opens ih =>
    obtain ⟨_, inner, rfl⟩ := Outcome.exists_of_map_eq_ok h
    exact .step (.opens opens) (mt Place.parts_iff.mp within) (ih inner)
  | case10 => cases h
  | case11 afterWord rest c below _ _ closes _ ih =>
    obtain ⟨_, inner, rfl⟩ := Outcome.exists_of_map_eq_ok h
    exact .step (.closes closes) (by simp [Place.Parts]) (ih inner)
  | case12 => cases h
  | case13 due afterWord c rest within notQuote opensNot closesNot ih =>
    obtain ⟨_, inner, rfl⟩ := Outcome.exists_of_map_eq_ok h
    rw [Bool.not_eq_true] at notQuote closesNot
    exact .step (.plain notQuote opensNot closesNot) (mt Place.parts_iff.mp within) (ih inner)

/-- The splitting function finds the pieces of a text. -/
theorem Splits.splitFrom_eq {place : Place} {text : List Char} {pieces : List (List Char)}
    (splits : Splits place text pieces) :
    splitFrom place.quote place.due place.afterWord text = .ok pieces := by
  induction splits with
  | done => rfl
  | separator separates _ ih =>
    rw [splitFrom_separator separates]
    exact congrArg _ ih
  | guarded _ ih => simp [splitFrom, ih, Except.map]
  | step one within _ ih => rw [splitFrom_step one within, ih]; rfl

/-- The scan of a text that meets no separator outside of quotes and brackets. -/
inductive Solid : Place → List Char → Place → Prop
  /-- No text leaves the place as it is. -/
  | nil {place : Place} : Solid place [] place
  /-- A backslash in a quoted stretch protects the next character. -/
  | guarded {quote c : Char} {due rest : List Char} {afterWord : Bool} {final : Place} :
      Solid ⟨some quote, due, false⟩ rest final →
        Solid ⟨some quote, due, afterWord⟩ ('\\' :: c :: rest) final
  /-- Any other character makes one step. -/
  | step {place place' final : Place} {c : Char} {rest : List Char} :
      Step place c place' → ¬place.Parts c → Solid place' rest final →
        Solid place (c :: rest) final

namespace Solid

/-- A scan without separators is a scan. -/
theorem scans {place final : Place} {text : List Char} (solid : Solid place text final) :
    Scans place text final := by
  induction solid with
  | nil => exact .nil
  | guarded _ ih => exact .guarded ih
  | step one _ _ ih => exact .step one ih

/-- A scan without separators goes on where the one of the text before ends. -/
theorem append {place middle final : Place} {text more : List Char}
    (first : Solid place text middle) (second : Solid middle more final) :
    Solid place (text ++ more) final := by
  induction first with
  | nil => exact second
  | guarded _ ih => exact .guarded (ih second)
  | step one within _ ih => exact .step one within (ih second)

/-- Beneath an open bracket no separator counts. -/
theorem of_scans {place final : Place} {text : List Char} (scans : Scans place text final)
    {base : List Char} (within : base ≠ []) :
    Solid (place.under base) text (final.under base) := by
  induction scans with
  | nil => exact .nil
  | guarded _ ih => exact .guarded ih
  | step one _ ih =>
    refine .step (one.under base) ?_ ih
    rintro ⟨-, empty, -⟩
    exact within (List.append_eq_nil_iff.mp empty).2

/-- A text that a bracket pair encloses is solid. -/
theorem bracketed {inside : List Char} {afterWord last : Bool}
    (scans : Scans .start inside ⟨none, [], last⟩) :
    Solid ⟨none, [], afterWord⟩ ('(' :: inside ++ [')']) .start := by
  have opening : Step ⟨none, [], afterWord⟩ '(' (Place.start.under [')']) := .opens rfl
  have closing : Step (Place.under ⟨none, [], last⟩ [')']) ')' .start := .closes rfl
  have body := of_scans scans (List.cons_ne_nil ')' [])
  refine .step opening ?_ (body.append (.step closing ?_ .nil))
  · rintro ⟨-, -, separates⟩
    revert separates
    decide
  · rintro ⟨-, empty, -⟩
    cases empty

/-- A solid text joins the first piece of what follows it. -/
theorem splits_append {place final : Place} {text : List Char} (solid : Solid place text final)
    {more : List Char} {pieces : List (List Char)} (splits : Splits final more pieces) :
    Splits place (text ++ more) (text.foldr extend pieces) := by
  induction solid with
  | nil => exact splits
  | guarded _ ih => exact .guarded (ih splits)
  | step one within _ ih => exact .step one within (ih splits)

end Solid

/-- Splitting leaves at least one piece. -/
theorem Splits.ne_nil {place : Place} {text : List Char} {pieces : List (List Char)}
    (splits : Splits place text pieces) : pieces ≠ [] :=
  (room_splitFrom _ _ _ _ _ splits.splitFrom_eq).1

/-- Every piece of a text is solid: the first one from the place at hand, and each of the others from
outside of everything, for a separator stands before it. -/
theorem Splits.solid_pieces {place : Place} {text first : List Char} {rest : List (List Char)}
    (splits : Splits place text (first :: rest)) :
    (∃ afterWord, Solid place first ⟨none, [], afterWord⟩) ∧
      ∀ piece ∈ rest, ∃ afterWord, Solid .start piece ⟨none, [], afterWord⟩ := by
  generalize whole : first :: rest = pieces at splits
  induction splits generalizing first rest with
  | @done afterWord =>
    cases whole
    exact ⟨⟨afterWord, .nil⟩, nofun⟩
  | @separator _ _ afterWord _ _ later ih =>
    cases whole
    obtain ⟨next, others, rfl⟩ := List.exists_cons_of_ne_nil later.ne_nil
    exact ⟨⟨afterWord, .nil⟩, List.forall_mem_cons.mpr (ih rfl)⟩
  | guarded later ih =>
    obtain ⟨next, others, rfl⟩ := List.exists_cons_of_ne_nil later.ne_nil
    cases whole
    obtain ⟨⟨afterWord, solid⟩, all⟩ := ih rfl
    exact ⟨⟨afterWord, .guarded solid⟩, all⟩
  | step one within later ih =>
    obtain ⟨next, others, rfl⟩ := List.exists_cons_of_ne_nil later.ne_nil
    cases whole
    obtain ⟨⟨afterWord, solid⟩, all⟩ := ih rfl
    exact ⟨⟨afterWord, .step one within solid⟩, all⟩

/-- A text that splitting leaves in one piece. -/
def IsPiece (text : List Char) : Prop :=
  text ≠ [] ∧ ∃ afterWord, Solid .start text ⟨none, [], afterWord⟩

/-- A run of separators. -/
def IsGap (text : List Char) : Prop := ∀ c ∈ text, isSeparator c

instance (text : List Char) : Decidable (IsGap text) :=
  List.decidableBAll (fun c => isSeparator c = true) text

/-- There may be no separator. -/
theorem isGap_nil : IsGap [] := List.forall_mem_nil _

/-- A run of separators goes on with one more. -/
theorem IsGap.cons {c : Char} (separates : isSeparator c) {gap : List Char} (isGap : IsGap gap) :
    IsGap (c :: gap) :=
  List.forall_mem_cons.mpr ⟨separates, isGap⟩

/-- The splitting function leaves out the empty pieces. -/
theorem Splits.splitPieces_eq {text : List Char} {pieces : List (List Char)}
    (splits : Splits .start text pieces) :
    splitPieces text = .ok (pieces.filter fun piece => !piece.isEmpty) := by
  have h : splitFrom none [] false text = .ok pieces := splits.splitFrom_eq
  rw [splitPieces, h]
  rfl

/-- What the splitting function returns are the pieces that are not empty. -/
theorem exists_splits {text : List Char} {pieces : List (List Char)}
    (h : splitPieces text = .ok pieces) :
    ∃ found, Splits .start text found ∧ found.filter (fun piece => !piece.isEmpty) = pieces := by
  obtain ⟨found, split, rfl⟩ := Outcome.exists_of_map_eq_ok h
  exact ⟨found, splits_of_splitFrom split, rfl⟩

/-- What the splitting function returns are pieces by themselves. -/
theorem isPiece_of_splitPieces {text argument : List Char} {arguments : List (List Char)}
    (split : splitPieces text = .ok arguments) (among : argument ∈ arguments) :
    IsPiece argument := by
  obtain ⟨pieces, splits, rfl⟩ := exists_splits split
  obtain ⟨inside, kept⟩ := List.mem_filter.mp among
  have nonempty : argument ≠ [] := by simpa using kept
  obtain ⟨first, rest, rfl⟩ := List.exists_cons_of_ne_nil splits.ne_nil
  obtain ⟨solid, all⟩ := splits.solid_pieces
  rcases List.mem_cons.mp inside with rfl | later
  · exact ⟨nonempty, solid⟩
  · exact ⟨nonempty, all argument later⟩

/-- A separator in front of a text adds no piece. -/
theorem splitPieces_separator {c : Char} (separates : isSeparator c) (text : List Char) :
    splitPieces (c :: text) = splitPieces text := by
  unfold splitPieces
  rw [splitFrom_separator separates]
  cases splitFrom none [] false text <;> rfl

/-- A run of separators in front of a text adds no piece. -/
theorem splitPieces_gap {gap : List Char} (isGap : IsGap gap) (text : List Char) :
    splitPieces (gap ++ text) = splitPieces text := by
  induction gap with
  | nil => rfl
  | cons c gap ih =>
    rw [List.cons_append, splitPieces_separator (isGap c List.mem_cons_self)]
    exact ih fun d hd => isGap d (List.mem_cons_of_mem c hd)

/-- The end of a text or a separator follows. -/
def AtBoundary (text : List Char) : Prop := ∀ c ∈ text.head?, isSeparator c

/-- A solid text in front of a first piece. -/
theorem foldr_extend (text piece : List Char) (rest : List (List Char)) :
    text.foldr extend (piece :: rest) = (text ++ piece) :: rest := by
  induction text with
  | nil => rfl
  | cons c text ih => rw [List.foldr_cons, ih]; rfl

/-- A piece up to a boundary is the first of the pieces. -/
theorem splitPieces_piece {text more : List Char} (isPiece : IsPiece text)
    (boundary : AtBoundary more) {pieces : List (List Char)} (h : splitPieces more = .ok pieces) :
    splitPieces (text ++ more) = .ok (text :: pieces) := by
  obtain ⟨nonempty, afterWord, solid⟩ := isPiece
  have kept : text.isEmpty = false := List.isEmpty_eq_false_iff.mpr nonempty
  cases more with
  | nil =>
    cases h
    have splits := solid.splits_append .done
    rw [foldr_extend] at splits
    rw [splits.splitPieces_eq]
    simp [kept]
  | cons c more =>
    have separates := boundary c rfl
    rw [splitPieces_separator separates] at h
    obtain ⟨found, rest, rfl⟩ := exists_splits h
    have splits := solid.splits_append (.separator separates rest)
    rw [foldr_extend] at splits
    rw [splits.splitPieces_eq]
    simp [kept]

end Stencil.Expression
