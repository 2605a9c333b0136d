import Stencil.Build
import Stencil.Proofs.Expression.Weave
import Stencil.Proofs.Outcome

/-!
# Literal texts with spans

The value of a woven text is the text with every span replaced by the text of its value, from left
to right. The texts put in are not looked at again, so marks in them stand as they are.
-/

namespace Stencil.Builder

open Expression (IsBody Piece openMark plain weave wovenPieces)

section

variable (evaluate : Evaluator) (document : Value)

/-- The text that takes the place of a span. -/
def spanText (body : List Char) : Outcome String := do
  (← evaluate (.scalar (String.ofList body)) document).toText

/-- The text that pieces stand for, from the first one to the last. -/
def piecesText : List Piece → Outcome (List Char)
  | [] => Except.ok []
  | .char c :: rest => (piecesText rest).map (c :: ·)
  | .span body :: rest => do
    let text ← spanText evaluate document body
    (piecesText rest).map (text.toList ++ ·)

/-- Pieces one by one, each with its own text, make up the text of all. -/
theorem flatten_mapM {chars : Piece → Outcome (List Char)} (char : ∀ c, chars (.char c) = .ok [c])
    (span : ∀ body, chars (.span body) = (spanText evaluate document body).map String.toList)
    (pieces : List Piece) :
    (pieces.mapM chars).map List.flatten = piecesText evaluate document pieces := by
  induction pieces with
  | nil => rfl
  | cons piece rest ih =>
    rw [List.mapM_cons]
    cases piece with
    | char c =>
      rw [char, piecesText, ← ih]
      cases rest.mapM chars <;> rfl
    | span body =>
      rw [span, piecesText, ← ih]
      cases spanText evaluate document body with
      | error => rfl
      | ok text => cases rest.mapM chars <;> rfl

/-- Interpolation gives the text that the pieces stand for. -/
theorem interpolate_eq (text : String) :
    interpolate evaluate document text =
      (piecesText evaluate document (Expression.pieces text.toList)).map String.ofList := by
  have joined (parts : Outcome (List (List Char))) :
      (do return String.ofList (← parts).flatten) = (parts.map List.flatten).map String.ofList := by
    cases parts <;> rfl
  refine (joined _).trans (congrArg _ (flatten_mapM evaluate document (fun c => rfl) ?_ _))
  intro body
  dsimp only [spanText]
  cases evaluate (.scalar (String.ofList body)) document with
  | error => rfl
  | ok v =>
    simp only [Outcome.ok_bind]
    cases v.toText <;> rfl

/-- Characters that stand for themselves come first. -/
theorem piecesText_plain (literal : List Char) (rest : List Piece) :
    piecesText evaluate document (plain literal ++ rest) =
      (piecesText evaluate document rest).map (literal ++ ·) := by
  induction literal with
  | nil =>
    simp only [plain, List.map_nil, List.nil_append]
    cases piecesText evaluate document rest <;> rfl
  | cons c literal ih =>
    rw [plain, List.map_cons, List.cons_append, piecesText]
    rw [plain] at ih
    rw [ih]
    cases piecesText evaluate document rest <;> rfl

/-- A text without an opening mark stands for itself. -/
theorem interpolate_of_free {text : String} (free : ¬openMark <:+: text.toList) :
    interpolate evaluate document text = .ok text := by
  have pieces : Expression.pieces text.toList = plain text.toList ++ [] := by
    have nothing : ([] : List Char).head? ≠ some '\x7b' := nofun
    have alone := Expression.piecesFrom_literal free nothing
    rwa [List.append_nil] at alone
  rw [interpolate_eq, pieces, piecesText_plain, piecesText, Outcome.map_ok, Outcome.map_ok,
    List.append_nil, String.ofList_toList]

/-- A literal, and texts after it, each with the literal that follows it. -/
def spliced : List Char → List (String × List Char) → List Char
  | literal, [] => literal
  | literal, (text, next) :: rest => literal ++ text.toList ++ spliced next rest

/-- The pieces of a woven text stand for the literals with the texts of the spans between them. -/
theorem piecesText_wovenPieces (literal : List Char) (spans : List (List Char × List Char)) :
    piecesText evaluate document (wovenPieces literal spans) =
      (spans.mapM fun span => spanText evaluate document span.1).map fun texts =>
        spliced literal (texts.zip (spans.map Prod.snd)) := by
  induction spans generalizing literal with
  | nil =>
    have alone := piecesText_plain evaluate document literal []
    rw [List.append_nil] at alone
    rw [wovenPieces, alone]
    simp [piecesText, spliced, pure, Except.pure]
  | cons span rest ih =>
    obtain ⟨body, next⟩ := span
    rw [wovenPieces, piecesText_plain, piecesText, ih next, List.mapM_cons]
    cases spanText evaluate document body with
    | error failure => rfl
    | ok text =>
      simp only [Outcome.ok_bind]
      cases rest.mapM fun span => spanText evaluate document span.1 with
      | error failure => rfl
      | ok texts => simp [spliced, pure, Except.pure]

/-- The first span without a text fails the whole. -/
theorem mapM_spanText_error {before after : List (List Char × List Char)}
    {span : List Char × List Char} {failure : Failure}
    (texts : ∀ earlier ∈ before, ∃ text, spanText evaluate document earlier.1 = .ok text)
    (fails : spanText evaluate document span.1 = .error failure) :
    ((before ++ span :: after).mapM fun span => spanText evaluate document span.1) =
      .error failure := by
  induction before with
  | nil =>
    rw [List.nil_append, List.mapM_cons, fails]
    rfl
  | cons earlier before ih =>
    obtain ⟨text, found⟩ := texts earlier List.mem_cons_self
    have others := ih fun span among => texts span (List.mem_cons_of_mem _ among)
    rw [List.cons_append, List.mapM_cons, found, Outcome.ok_bind, others]
    rfl

end

/-- A literal for a text is interpolated where it stands; its spans lie a level deeper. -/
theorem evaluateAt_literal (b : Builder) (levels : Nat) (document : Value) {expression : String}
    {word text : List Char} (split : splitTag? expression.toList = some (word, text))
    (tag : Tag.ofWord? (String.ofList word) = some (.one .string))
    (raw : Expression.tokenize (String.ofList text) = .ok [.raw (String.ofList text)]) :
    evaluateAt b (levels + 1) 0 (.scalar expression) document =
      (interpolate (evaluateAt b (levels + 1) 1) document (String.ofList text)).map .text := by
  rw [evaluateAt, step, scalarValue, split]
  simp only [tag, raw]
  rfl

/-- Interpolation is exact splicing. The value of a woven text is its literals with the texts of the
spans' values between them, where each span is a schema for the same document a level deeper; the
texts put in may hold any marks. The failure of the first span from the left without a text is the
failure of the whole. A literal for a text, at any allowed level, is interpolated this way. -/
theorem interpolate_weave (b : Builder) (levels : Nat) (document : Value) {literal : List Char}
    {spans : List (List Char × List Char)} (free : ¬openMark <:+: literal)
    (clean : ∀ span ∈ spans, IsBody span.1 ∧ ¬openMark <:+: span.2) :
    let deeper := evaluateAt b (levels + 1) 1
    let text := weave literal spans
    interpolate deeper document (String.ofList text) =
      (spans.mapM fun span => spanText deeper document span.1).map (fun texts =>
        String.ofList (spliced literal (texts.zip (spans.map Prod.snd)))) ∧
    (∀ before span after failure, spans = before ++ span :: after →
      (∀ earlier ∈ before, ∃ found, spanText deeper document earlier.1 = .ok found) →
      spanText deeper document span.1 = .error failure →
      interpolate deeper document (String.ofList text) = .error failure) ∧
    (∀ expression word, splitTag? expression.toList = some (word, text) →
      Tag.ofWord? (String.ofList word) = some (.one .string) →
      Expression.tokenize (String.ofList text) = .ok [.raw (String.ofList text)] →
      evaluateAt b (levels + 1) 0 (.scalar expression) document =
        (interpolate deeper document (String.ofList text)).map .text) := by
  intro deeper text
  have whole : interpolate deeper document (String.ofList text) =
      (spans.mapM fun span => spanText deeper document span.1).map (fun texts =>
        String.ofList (spliced literal (texts.zip (spans.map Prod.snd)))) := by
    have pieces := Expression.pieces_weave free clean
    rw [interpolate_eq, String.toList_ofList, pieces, piecesText_wovenPieces]
    cases spans.mapM fun span => spanText deeper document span.1 <;> rfl
  refine ⟨whole, ?_, fun expression word split tag raw =>
    evaluateAt_literal b levels document split tag raw⟩
  rintro before span after failure rfl texts fails
  rw [whole, mapM_spanText_error deeper document texts fails]
  rfl

/-- A span between a brace and another brace, whose value is itself a text with both marks. -/
theorem interpolate_weave_marks :
    let document : Value := .object [(.text "a", .text "@\x7bstr x\x7d@")]
    let literal := ['\x7d']
    let spans := [("str $.a".toList, ['\x7b', '!'])]
    weave literal spans = "\x7d@\x7bstr $.a\x7d@\x7b!".toList ∧
    ¬openMark <:+: literal ∧ (∀ span ∈ spans, IsBody span.1 ∧ ¬openMark <:+: span.2) ∧
    interpolate (evaluateAt ⟨.standard, 1⟩ 2 1) document "\x7d@\x7bstr $.a\x7d@\x7b!" =
      .ok "\x7d@\x7bstr x\x7d@\x7b!" := by
  intro document literal spans
  have free : ¬openMark <:+: literal := by decide
  have clean : ∀ span ∈ spans, IsBody span.1 ∧ ¬openMark <:+: span.2 := by
    intro span among
    obtain rfl := List.mem_singleton.mp among
    exact ⟨⟨by decide +kernel, by decide +kernel, by decide⟩, by decide⟩
  have value : spanText (evaluateAt ⟨.standard, 1⟩ 2 1) document "str $.a".toList =
      .ok "@\x7bstr x\x7d@" := by rfl
  have whole := (interpolate_weave ⟨.standard, 1⟩ 1 document free clean).1
  refine ⟨rfl, free, clean, whole.trans ?_⟩
  simp only [spans, List.mapM_cons, List.mapM_nil, value]
  rfl

end Stencil.Builder
