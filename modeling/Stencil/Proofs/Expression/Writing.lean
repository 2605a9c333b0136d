import Stencil.Expression.Call
import Stencil.Proofs.Expression.Token

/-!
# Writing calls as text

The ways to write a call tree as an expression: quotes around a literal are free where it reads as
a bare word, and so are the separators around the arguments and the blanks around the whole. Each
way of writing a call gives the tokens of the call back.
-/

namespace Stencil.Expression

/-- A character of a bare word. -/
def IsWordChar (c : Char) : Prop :=
  isSeparator c = false ∧ c ∉ ['(', ')', '[', ']', '\'', '"']

instance (c : Char) : Decidable (IsWordChar c) :=
  inferInstanceAs (Decidable (isSeparator c = false ∧ c ∉ ['(', ')', '[', ']', '\'', '"']))

/-- A literal that needs no quotes. -/
structure IsWord (word : List Char) : Prop where
  /-- A word has a first character, which does not make it a path. -/
  starts : ∃ c ∈ word.head?, c ≠ '$'
  /-- No character separates, opens, closes or quotes. -/
  all : ∀ c ∈ word, IsWordChar c

mutual

/-- The ways to write an argument. -/
inductive Spells : Argument → List Char → Prop
  /-- A path is a text that starts as one and that splitting leaves whole. -/
  | path {text : List Char} : text.head? = some '$' → splitArguments text = .ok [text] →
      Spells (.path (String.ofList text)) text
  /-- A literal in quotes holds neither its quote nor a backslash. -/
  | quoted {quote : Char} {text : List Char} : isQuote quote → quote ∉ text → '\\' ∉ text →
      Spells (.raw (String.ofList text)) (quote :: text ++ [quote])
  /-- A bare word stands for itself. -/
  | word {text : List Char} : IsWord text → Spells (.raw (String.ofList text)) text
  /-- A call is its name and its arguments in brackets. -/
  | call {name gap inside : List Char} {arguments : List Argument} : IsName name → IsGap gap →
      SpellsAll arguments inside →
        Spells (.call (String.ofList name) arguments) (name ++ '(' :: (gap ++ inside) ++ [')'])

/-- The ways to write arguments one after the other, with the separators that follow them. -/
inductive SpellsAll : List Argument → List Char → Prop
  /-- No arguments. -/
  | nil : SpellsAll [] []
  /-- Separators may follow the last argument. -/
  | last {argument : Argument} {text gap : List Char} : Spells argument text → IsGap gap →
      SpellsAll [argument] (text ++ gap)
  /-- Separators must follow an argument before another one. -/
  | cons {argument : Argument} {rest : List Argument} {text gap more : List Char} :
      Spells argument text → IsGap gap → gap ≠ [] → SpellsAll rest more →
        SpellsAll (argument :: rest) (text ++ (gap ++ more))

end

/-- A separator has no other meaning. -/
theorem separator_plain {c : Char} (h : isSeparator c) :
    isQuote c = false ∧ closer? c = none ∧ isCloser c = false ∧
      Text.isAlphanumeric c = false := by
  simp only [isSeparator, Bool.or_eq_true, decide_eq_true_eq] at h
  rcases h with rfl | blank
  · decide
  · refine ⟨?_, ?_, ?_, Text.isAlphanumeric_of_isBlank blank⟩
    · apply Text.forall_blank (p := fun c => isQuote c = false) _ blank
      decide
    · apply Text.forall_blank (p := fun c => closer? c = none) _ blank
      decide
    · apply Text.forall_blank (p := fun c => isCloser c = false) _ blank
      decide

/-- A separator outside of quotes leaves the brackets as they are. -/
theorem Step.separator {due : List Char} {afterWord : Bool} {c : Char} (h : isSeparator c) :
    Step ⟨none, due, afterWord⟩ c ⟨none, due, false⟩ := by
  obtain ⟨notQuote, opensNot, closesNot, notWord⟩ := separator_plain h
  have step : Step ⟨none, due, afterWord⟩ c ⟨none, due, Text.isAlphanumeric c⟩ :=
    .plain (by simp [notQuote]) opensNot closesNot
  rwa [notWord] at step

/-- A run of separators leads to the place outside of everything. -/
theorem Scans.gap {gap : List Char} (isGap : IsGap gap) (nonempty : gap ≠ []) {afterWord : Bool} :
    Scans ⟨none, [], afterWord⟩ gap .start := by
  induction gap generalizing afterWord with
  | nil => exact absurd rfl nonempty
  | cons c gap ih =>
    have first : Step ⟨none, [], afterWord⟩ c .start := .separator (isGap c List.mem_cons_self)
    cases gap with
    | nil => exact .step first .nil
    | cons d gap =>
      exact .step first (ih (fun e he => isGap e (List.mem_cons_of_mem c he)) (by simp))

/-- The first character after a piece is a separator wherever a run of separators follows. -/
theorem IsGap.atBoundary {gap : List Char} (isGap : IsGap gap) (nonempty : gap ≠ [])
    (more : List Char) : AtBoundary (gap ++ more) := by
  cases gap with
  | nil => exact absurd rfl nonempty
  | cons c gap =>
    intro d hd
    cases hd
    exact isGap c List.mem_cons_self

/-- Letters and digits of names are ASCII characters. -/
theorem toNat_lt_of_isAlphanum {c : Char} (h : c.isAlphanum) : c.toNat < 128 := by
  rcases Bool.or_eq_true_iff.mp h with letter | digit
  · rcases Bool.or_eq_true_iff.mp letter with upper | lower
    · have last : c.toNat ≤ 90 := (of_decide_eq_true upper).2
      omega
    · have last : c.toNat ≤ 122 := of_decide_eq_true (Bool.and_eq_true_iff.mp lower).2
      omega
  · have last : c.toNat ≤ 57 := of_decide_eq_true (Bool.and_eq_true_iff.mp digit).2
    omega

/-- Every character of a name is one of a bare word. -/
theorem isWordChar_of_isNameChar {c : Char} (h : isNameChar c) : IsWordChar c := by
  constructor
  · rw [Bool.eq_false_iff]
    intro separates
    obtain ⟨-, -, -, notWord⟩ := separator_plain separates
    simp only [isNameChar, Bool.or_eq_true, decide_eq_true_eq] at h
    rcases h with word | rfl
    · rw [Text.isAlphanumeric_of_isAlphanum c (toNat_lt_of_isAlphanum word), word] at notWord
      cases notWord
    · revert separates
      decide
  · intro mark
    simp only [List.mem_cons, List.not_mem_nil, or_false] at mark
    rcases mark with rfl | rfl | rfl | rfl | rfl | rfl <;> revert h <;> decide

/-- The characters of bare words are scanned without a change of brackets. -/
theorem Solid.plain {text : List Char} (plain : ∀ c ∈ text, IsWordChar c) (afterWord : Bool) :
    ∃ last, Solid ⟨none, [], afterWord⟩ text ⟨none, [], last⟩ := by
  induction text generalizing afterWord with
  | nil => exact ⟨afterWord, .nil⟩
  | cons c text ih =>
    obtain ⟨last, rest⟩ := ih (fun d hd => plain d (List.mem_cons_of_mem c hd))
      (Text.isAlphanumeric c)
    obtain ⟨noSeparator, noMark⟩ := plain c List.mem_cons_self
    simp only [List.mem_cons, List.not_mem_nil, or_false, not_or] at noMark
    obtain ⟨h1, h2, h3, h4, h5, h6⟩ := noMark
    refine ⟨last, .step (.plain ?_ ?_ ?_) ?_ rest⟩
    · simp [isQuote, h5, h6]
    · exact closer?_eq_none h1 h3
    · simp [isCloser, h2, h4]
    · simp [Place.Parts, noSeparator]

/-- A bare word is one piece. -/
theorem IsWord.isPiece {word : List Char} (isWord : IsWord word) : IsPiece word := by
  obtain ⟨c, first, -⟩ := isWord.starts
  refine ⟨?_, Solid.plain isWord.all false⟩
  rintro rfl
  cases first

/-- Inside a quoted stretch a text without its quote and without backslashes changes nothing. -/
theorem Solid.quoted {quote : Char} {text : List Char} (noQuote : quote ∉ text)
    (noBackslash : '\\' ∉ text) :
    Solid ⟨some quote, [], false⟩ text ⟨some quote, [], false⟩ := by
  induction text with
  | nil => exact .nil
  | cons c text ih =>
    rw [List.mem_cons, not_or] at noQuote noBackslash
    have step : Step ⟨some quote, [], false⟩ c
        ⟨if c = quote then none else some quote, [], false⟩ := .quoted (Ne.symm noBackslash.1)
    rw [if_neg (Ne.symm noQuote.1)] at step
    exact .step step (by simp [Place.Parts]) (ih noQuote.2 noBackslash.2)

/-- A literal in quotes is one piece. -/
theorem isPiece_quoted {quote : Char} {text : List Char} (isQuote' : isQuote quote)
    (noQuote : quote ∉ text) (noBackslash : '\\' ∉ text) :
    IsPiece (quote :: text ++ [quote]) := by
  have notBackslash : quote ≠ '\\' := by
    rintro rfl
    cases isQuote'
  have noSeparator : isSeparator quote = false := by
    rw [Bool.eq_false_iff]
    intro separates
    rw [(separator_plain separates).1] at isQuote'
    cases isQuote'
  have closing : Step ⟨some quote, [], false⟩ quote
      ⟨if quote = quote then none else some quote, [], false⟩ := .quoted notBackslash
  rw [if_pos rfl] at closing
  refine ⟨by simp, false, .step (.quote isQuote') (by simp [Place.Parts, noSeparator]) ?_⟩
  exact (Solid.quoted noQuote noBackslash).append (.step closing (by simp [Place.Parts]) .nil)

mutual

/-- Every way of writing an argument is one piece. -/
theorem Spells.isPiece {argument : Argument} {text : List Char} (spells : Spells argument text) :
    IsPiece text := by
  cases spells with
  | path _ whole =>
    exact isPiece_of_splitPieces (splitArguments_eq_ok_iff.mp whole) (List.mem_singleton_self text)
  | quoted isQuote' noQuote noBackslash => exact isPiece_quoted isQuote' noQuote noBackslash
  | word isWord => exact isWord.isPiece
  | @call name gap inside arguments isName isGap spellsAll =>
    obtain ⟨last, scans⟩ := spellsAll.scans isGap
    have nameWord : ∀ c ∈ name, IsWordChar c := fun c hc =>
      isWordChar_of_isNameChar (isName.all c hc)
    obtain ⟨afterWord, nameSolid⟩ := Solid.plain nameWord false
    refine ⟨by simp, false, ?_⟩
    rw [List.append_assoc]
    exact nameSolid.append (Solid.bracketed scans)

/-- What stands between the brackets of a call is scanned as a whole. -/
theorem SpellsAll.scans {arguments : List Argument} {text : List Char}
    (spells : SpellsAll arguments text) {before : List Char} (isGap : IsGap before) :
    ∃ last, Scans .start (before ++ text) ⟨none, [], last⟩ := by
  have start : Scans .start before .start := by
    cases before with
    | nil => exact .nil
    | cons c before => exact Scans.gap isGap (by simp)
  cases spells with
  | nil => exact ⟨false, by simpa [Place.start] using start⟩
  | @last argument text gap spells isGap' =>
    obtain ⟨-, afterWord, solid⟩ := spells.isPiece
    cases gap with
    | nil => exact ⟨afterWord, start.append (by simpa using solid.scans)⟩
    | cons c gap =>
      exact ⟨false, start.append (solid.scans.append (Scans.gap isGap' (by simp)))⟩
  | cons spells isGap' nonempty spellsAll =>
    obtain ⟨-, afterWord, solid⟩ := spells.isPiece
    obtain ⟨last, rest⟩ := spellsAll.scans isGap_nil
    exact ⟨last, start.append (solid.scans.append ((Scans.gap isGap' nonempty).append rest))⟩

end

/-- A literal in quotes has the shape of a literal. -/
theorem shapeOf_quoted {quote : Char} (isQuote' : isQuote quote) (text : List Char) :
    shapeOf (quote :: text ++ [quote]) = .ok (.leaf (.raw (String.ofList text))) := by
  have long : ¬(quote :: (text ++ [quote])).length < 2 := by simp
  have ends : (quote :: (text ++ [quote])).getLast? = some quote := by
    rw [← List.cons_append, List.getLast?_concat]
  rw [List.cons_append]
  simp only [shapeOf, isQuote', if_true, unquoted, long, ends, ne_eq, not_true_eq_false,
    decide_false, Bool.or_self, Bool.false_eq_true, if_false, List.tail_cons,
    List.dropLast_concat]

/-- A path has the shape of a path. -/
theorem shapeOf_path {text : List Char} (starts : text.head? = some '$') :
    shapeOf text = .ok (.leaf (.path (String.ofList text))) := by
  cases text with
  | nil => cases starts
  | cons c text =>
    cases starts
    rfl

/-- A bare word has the shape of a literal. -/
theorem shapeOf_word {word : List Char} (isWord : IsWord word) :
    shapeOf word = .ok (.leaf (.raw (String.ofList word))) := by
  have noMark (mark : Char) (h : mark ∈ ['(', ')', '[', ']', '\'', '"']) : mark ∉ word :=
    fun hm => (isWord.all mark hm).2 h
  have noCall := callHead?_eq_none (noMark '(' (by simp))
  obtain ⟨c, first, notPath⟩ := isWord.starts
  cases word with
  | nil => cases first
  | cons d word =>
    cases first
    have notQuote : isQuote c = false := by
      rw [Bool.eq_false_iff]
      intro quote
      simp only [isQuote, Bool.or_eq_true, decide_eq_true_eq] at quote
      rcases quote with rfl | rfl
      · exact noMark '\'' (by simp) List.mem_cons_self
      · exact noMark '"' (by simp) List.mem_cons_self
    simp [shapeOf, notQuote, notPath, noCall]

mutual

/-- Every way of writing an argument has the tokens of the argument. -/
theorem Spells.tokens {argument : Argument} {text : List Char} (spells : Spells argument text) :
    ∃ shape, shapeOf text = .ok shape ∧ shape.tokens = .ok argument.flatten := by
  cases spells with
  | path starts _ => exact ⟨_, shapeOf_path starts, rfl⟩
  | quoted isQuote' _ _ => exact ⟨_, shapeOf_quoted isQuote' _, rfl⟩
  | word isWord => exact ⟨_, shapeOf_word isWord, rfl⟩
  | call isName isGap spellsAll =>
    obtain ⟨last, scans⟩ := spellsAll.scans isGap
    refine ⟨_, shapeOf_call isName scans, ?_⟩
    rw [Shape.tokens, String.toList_ofList]
    exact spellsAll.callTokens isGap _

/-- Every way of writing the arguments of a call gives the tokens of the call. -/
theorem SpellsAll.callTokens {arguments : List Argument} {text : List Char}
    (spells : SpellsAll arguments text) {before : List Char} (isGap : IsGap before)
    (name : List Char) :
    callTokens name (before ++ text) =
      .ok (Argument.call (String.ofList name) arguments).flatten := by
  obtain ⟨pieces, split, tokens⟩ := spells.argumentTokens
  have splitAll : splitArguments (before ++ text) = .ok pieces := by
    rw [splitArguments_eq_ok_iff, splitPieces_gap isGap, split]
  rw [Expression.callTokens, splitAll, Outcome.ok_bind, tokens]
  rfl

/-- Every way of writing arguments is split into the arguments. -/
theorem SpellsAll.argumentTokens {arguments : List Argument} {text : List Char}
    (spells : SpellsAll arguments text) :
    ∃ pieces, splitPieces text = .ok pieces ∧
      argumentTokens pieces = .ok (Argument.flattenAll arguments) := by
  cases spells with
  | nil => exact ⟨[], rfl, by rw [Expression.argumentTokens]; rfl⟩
  | @last argument piece gap spells isGap =>
    obtain ⟨shape, hasShape, tokens⟩ := spells.tokens
    have none : splitPieces gap = .ok [] := by
      rw [← List.append_nil gap, splitPieces_gap isGap]
      rfl
    have boundary : AtBoundary gap := by
      cases gap with
      | nil => intro c hc; cases hc
      | cons c gap => simpa using isGap.atBoundary (by simp) []
    refine ⟨[piece], splitPieces_piece spells.isPiece boundary none, ?_⟩
    rw [argumentTokens_cons, hasShape, Outcome.ok_bind, tokens, Expression.argumentTokens]
    rfl
  | @cons argument rest piece gap more spells isGap nonempty spellsAll =>
    obtain ⟨shape, hasShape, tokens⟩ := spells.tokens
    obtain ⟨pieces, split, restTokens⟩ := spellsAll.argumentTokens
    have others : splitPieces (gap ++ more) = .ok pieces := by rw [splitPieces_gap isGap, split]
    refine ⟨piece :: pieces,
      splitPieces_piece spells.isPiece (isGap.atBoundary nonempty more) others, ?_⟩
    rw [argumentTokens_cons, hasShape, Outcome.ok_bind, tokens, restTokens]
    rfl

end

/-- However a call is written, its tokens are its name, the tokens of its arguments in order, and
a closing token. -/
theorem tokenize_of_spells {name : String} {arguments : List Argument}
    {before text after : List Char} (spells : Spells (.call name arguments) text)
    (blankBefore : ∀ c ∈ before, Text.isBlank c) (blankAfter : ∀ c ∈ after, Text.isBlank c) :
    tokenize (String.ofList (before ++ text ++ after)) =
      .ok (.call name :: Argument.flattenAll arguments ++ [.close]) := by
  cases spells with
  | @call name gap inside _ isName isGap spellsAll =>
    obtain ⟨last, scans⟩ := spellsAll.scans isGap
    have head := callHead?_append isName (gap ++ inside ++ [')'])
    have encloses := enclosed?_bracketed scans
    obtain ⟨c, rest, rfl, starts⟩ := isName.exists_eq_cons
    have notPath := (isNameStart_plain starts).2
    have notBlank : Text.isBlank c = false := by
      rw [Bool.eq_false_iff]
      intro blank
      have separates : isSeparator c = true := by simp [isSeparator, blank]
      have plain := isWordChar_of_isNameChar (isName.all c List.mem_cons_self)
      rw [plain.1] at separates
      cases separates
    have trimmed : Text.trim (before ++ (c :: rest ++ '(' :: (gap ++ inside) ++ [')']) ++ after) =
        c :: rest ++ '(' :: (gap ++ inside ++ [')']) := by
      have surrounded := Text.trim_surrounded blankBefore blankAfter
        (rest ++ '(' :: (gap ++ inside)) notBlank (by decide : Text.isBlank ')' = false)
      simpa using surrounded
    rw [tokenize, String.toList_ofList, trimmed, head]
    simp only [List.cons_append, List.head?_cons, Option.some.injEq, notPath, if_false]
    rw [← List.cons_append, encloses]
    exact spellsAll.callTokens isGap _

/-- A call with a quoted bracket, a nested call and an empty literal. -/
theorem tokenize_of_spells_nested :
    Spells (.call "concat" [.raw "a, (b", .call "max" [.path "$.x[0]", .raw "1"], .raw ""])
        "concat( 'a, (b',\tmax($.x[0] 1,),\"\")".toList ∧
      tokenize "\n concat( 'a, (b',\tmax($.x[0] 1,),\"\") " = .ok [
        .call "concat", .raw "a, (b", .call "max", .path "$.x[0]", .raw "1", .close, .raw "",
        .close] := by
  have quoted : Spells (.raw "a, (b") "'a, (b'".toList :=
    @Spells.quoted '\'' "a, (b".toList (by decide) (by decide) (by decide)
  have path : Spells (.path "$.x[0]") "$.x[0]".toList :=
    @Spells.path "$.x[0]".toList (by decide) (by rfl)
  have plain : ∀ c ∈ "1".toList, IsWordChar c := List.forall_mem_singleton.mpr (by decide)
  have word : Spells (.raw "1") "1".toList := @Spells.word "1".toList ⟨⟨'1', by decide⟩, plain⟩
  have inner : SpellsAll [.path "$.x[0]", .raw "1"] "$.x[0] 1,".toList :=
    @SpellsAll.cons _ _ _ [' '] _ path (by decide) (by decide)
      (@SpellsAll.last _ _ [','] word (by decide))
  have max : Spells (.call "max" [.path "$.x[0]", .raw "1"]) "max($.x[0] 1,)".toList :=
    @Spells.call "max".toList [] _ _ ⟨⟨'m', by decide⟩, List.all_eq_true.mp rfl⟩ (by decide) inner
  have empty : Spells (.raw "") "\"\"".toList :=
    @Spells.quoted '"' [] (by decide) (by decide) (by decide)
  have call : Spells
      (.call "concat" [.raw "a, (b", .call "max" [.path "$.x[0]", .raw "1"], .raw ""])
      "concat( 'a, (b',\tmax($.x[0] 1,),\"\")".toList :=
    @Spells.call "concat".toList [' '] _ _ ⟨⟨'c', by decide⟩, List.all_eq_true.mp rfl⟩ (by decide)
      (@SpellsAll.cons _ _ _ [',', '\t'] _ quoted (by decide) (by decide)
        (@SpellsAll.cons _ _ _ [','] _ max (by decide) (by decide)
          (@SpellsAll.last _ _ [] empty (by decide))))
  have blankBefore : ∀ c ∈ ['\n', ' '], Text.isBlank c := List.all_eq_true.mp rfl
  have blankAfter : ∀ c ∈ [' '], Text.isBlank c := List.all_eq_true.mp rfl
  have tokens := tokenize_of_spells call blankBefore blankAfter
  have whole : String.ofList
      (['\n', ' '] ++ "concat( 'a, (b',\tmax($.x[0] 1,),\"\")".toList ++ [' ']) =
        "\n concat( 'a, (b',\tmax($.x[0] 1,),\"\") " := by decide
  rw [whole] at tokens
  exact ⟨call, tokens⟩

end Stencil.Expression
