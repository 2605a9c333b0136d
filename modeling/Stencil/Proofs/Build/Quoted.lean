import Stencil.Proofs.Batch.WellFormed
import Stencil.Proofs.Build.Scalar
import Stencil.Proofs.Build.Splice
import Stencil.Proofs.Decimal.Finite
import Stencil.Proofs.Expression.Writing

/-!
# Literal texts and quoted arguments

A text that looks like no path and no call and opens no span is the value of its own literal: the
tag is split off in front of it, the ends are trimmed only to tell what kind of expression it is,
and interpolation leaves it as it is. So a request whose address is such a text is sent to exactly
that address.

Quotes keep an argument in one piece, whatever stands between them, but they do not say that it is
a text: a quoted argument is read like a bare word, as a number or a truth value if it looks like
one. A concatenation shows what was read. So a text comes back as it is unless it is another way to
write a number or a truth value.
-/

namespace Stencil.Builder

open Expression (IsName callHead? openMark)

/-- A text that stands for itself: it starts with neither a blank nor a dollar sign nor a name
directly followed by an opening bracket, and it holds no opening mark of a span. -/
structure IsVerbatim (text : List Char) : Prop where
  /-- The first character. -/
  starts : ∃ c ∈ text.head?, Text.isBlank c = false ∧ c ≠ '$'
  /-- It starts with no call. -/
  noCall : ¬∃ name rest, IsName name ∧ text = name ++ '(' :: rest
  /-- It opens no span. -/
  free : ¬openMark <:+: text

namespace IsVerbatim

variable {text : List Char}

/-- There is nothing to trim in front. -/
theorem trimStart (verbatim : IsVerbatim text) : Text.trimStart text = text := by
  obtain ⟨c, first, visible, -⟩ := verbatim.starts
  obtain ⟨rest, rfl⟩ := List.head?_eq_some_iff.mp first
  exact Text.trimStart_of_head rest visible

/-- What is left of the text when its ends are trimmed starts as the text does, and with no call. -/
theorem trim (verbatim : IsVerbatim text) :
    (Text.trim text).head? ≠ some '$' ∧ callHead? (Text.trim text) = none := by
  obtain ⟨after, -, split⟩ := Text.exists_trimEnd_append text
  have trimmed : Text.trim text = Text.trimEnd text := by rw [Text.trim, verbatim.trimStart]
  rw [trimmed]
  constructor
  · intro dollar
    obtain ⟨rest, left⟩ := List.head?_eq_some_iff.mp dollar
    obtain ⟨c, first, -, other⟩ := verbatim.starts
    rw [split, left] at first
    exact other (Option.some.inj first).symm
  · -- only the end can be trimmed away, so a call that is left starts the whole text
    refine Expression.callHead?_eq_none_iff.mpr ?_
    rintro ⟨name, rest, isName, left⟩
    refine verbatim.noCall ⟨name, rest ++ after, isName, ?_⟩
    rw [split, left, List.append_assoc, List.cons_append]

/-- The text is one literal. -/
theorem tokenize (verbatim : IsVerbatim text) :
    Expression.tokenize (String.ofList text) = .ok [.raw (String.ofList text)] := by
  have notPath := verbatim.trim.1
  have noCall := verbatim.trim.2
  rw [← String.toList_ofList (l := text)] at notPath noCall
  exact Expression.tokenize_raw notPath noCall

end IsVerbatim

variable {b : Builder} {s : String}

/-- The value of a verbatim text is the text, wherever there is a level for it. -/
theorem build_verbatim (verbatim : IsVerbatim s.toList) (document : Value) :
    b.build (.text ("str " ++ s)) document =
      if b.maxDepth < 0 then b.tooDeep else .ok (.text s) := by
  by_cases negative : b.maxDepth < 0
  · rw [if_pos negative, build_of_levels_eq_zero (levels_eq_zero_iff.mpr negative)]
  · obtain ⟨below, more⟩ := Nat.exists_eq_succ_of_ne_zero (mt levels_eq_zero_iff.mp negative)
    have visible : s.toList.isEmpty = false := by
      obtain ⟨c, first, -⟩ := verbatim.starts
      obtain ⟨rest, letters⟩ := List.head?_eq_some_iff.mp first
      rw [letters, List.isEmpty_cons]
    have tag : Tag.ofWord? "str" = some (.one .string) := (Tag.ofWord?_words (.one .string)).1
    have split : splitTag? ("str " ++ s).toList = some ("str".toList, s.toList) := by
      have parts : splitTag? ("str" ++ " " ++ s).toList = _ := splitTag?_word tag
      rwa [verbatim.trimStart, visible, if_neg Bool.false_ne_true] at parts
    rw [if_neg negative, build_literal more split tag verbatim.tokenize, String.ofList_toList,
      interpolate_of_free _ document verbatim.free]
    rfl

/-- The address that is built from a verbatim text is the text. -/
theorem buildUrl_verbatim (verbatim : IsVerbatim s.toList) {document : Value} {url : Option String}
    (built : b.buildUrl s document = .ok url) : url = some s := by
  obtain ⟨v, value, built⟩ := Outcome.exists_of_bind_eq_ok built
  rw [build_verbatim verbatim] at value
  split at value
  · cases value
  · cases value
    cases built
    rfl

/-- Literal text is verbatim. Whatever the document, a text that starts with no blank, no dollar
sign and no call and opens no span is built as it is, wherever the limit allows anything to be
built; so is an address. In every run of a batch a request whose template has such an address is
sent to exactly this address, whatever is dispatched, answered or built besides. -/
theorem build_str_eq_self (b : Builder) {s : String} (verbatim : IsVerbatim s.toList) :
    (∀ document, b.build (.text ("str " ++ s)) document =
      if b.maxDepth < 0 then b.tooDeep else .ok (.text s)) ∧
    (0 ≤ b.maxDepth → ∀ document, b.buildUrl s document = .ok (some s)) ∧
    ∀ {τ : Type} (dispatch : Request → τ → Outcome Response × τ) (clock : τ → Binary64 × τ)
      (opening : Request) (world : τ) (template : BatchTemplate) (k : Nat)
      (asked : RequestTemplate) (request : Request),
      template.requests[k]? = some asked → asked.url = s →
      (recordedRun b dispatch clock opening world template).2.sent[k]? = some request →
      request.url = some s := by
  refine ⟨build_verbatim verbatim, fun allowed document => ?_, ?_⟩
  · rw [buildUrl, build_verbatim verbatim, if_neg (Int.not_lt.mpr allowed)]
    rfl
  · rintro τ dispatch clock opening world template k asked request asks rfl sent
    obtain ⟨stage, records, rfl, next⟩ := getElem?_sent_iff.mp sent
    obtain ⟨asked', asks', built⟩ := Stage.next?_eq_some_iff.mp next
    cases asks.symm.trans asks'
    rw [buildRequest_eq] at built
    obtain ⟨url, address, built⟩ := Outcome.exists_of_bind_eq_ok built
    obtain ⟨body, -, built⟩ := Outcome.exists_of_bind_eq_ok built
    obtain ⟨headers, -, built⟩ := Outcome.exists_of_bind_eq_ok built
    cases built
    exact buildUrl_verbatim verbatim address

/-- Quotes, brackets, commas and blanks inside of a text and at its end are kept. -/
theorem build_str_eq_self_quoted :
    IsVerbatim "x, \"y\"  [1 (z\t".toList ∧
    ∀ document, ({} : Builder).build (.text ("str " ++ "x, \"y\"  [1 (z\t")) document =
      .ok (.text "x, \"y\"  [1 (z\t") := by
  have verbatim : IsVerbatim "x, \"y\"  [1 (z\t".toList :=
    { starts := ⟨'x', by decide⟩
      noCall := Expression.callHead?_eq_none_iff.mp (by decide)
      free := by decide +kernel }
  refine ⟨verbatim, fun document => ?_⟩
  have built := (build_str_eq_self {} verbatim).1 document
  have allowed : ¬({} : Builder).maxDepth < 0 := by decide
  rwa [if_neg allowed] at built

end Stencil.Builder

namespace Stencil

namespace Expression

/-- A name is no blank. -/
theorem isBlank_of_isNameChar {c : Char} (h : isNameChar c) : Text.isBlank c = false := by
  have noSeparator := (isWordChar_of_isNameChar h).1
  rw [isSeparator, Bool.or_eq_false_iff] at noSeparator
  exact noSeparator.2

/-- The tokens of a call without blanks around it are those of its name and its arguments. -/
theorem tokenize_call {name inside : List Char} (isName : IsName name) {last : Bool}
    (scans : Scans .start inside ⟨none, [], last⟩) :
    tokenize (String.ofList (name ++ '(' :: inside ++ [')'])) = callTokens name inside := by
  have head := callHead?_append isName (inside ++ [')'])
  have encloses := enclosed?_bracketed scans
  obtain ⟨c, rest, rfl, starts⟩ := isName.exists_eq_cons
  have notPath := (isNameStart_plain starts).2
  have visible := isBlank_of_isNameChar (isName.all c List.mem_cons_self)
  have trimmed : Text.trim (c :: rest ++ '(' :: inside ++ [')']) =
      c :: rest ++ '(' :: (inside ++ [')']) := by
    have noBlank : ∀ c ∈ ([] : List Char), Text.isBlank c := List.forall_mem_nil _
    have surrounded := Text.trim_surrounded noBlank noBlank (rest ++ '(' :: inside) visible
      (by decide : Text.isBlank ')' = false)
    simpa using surrounded
  rw [tokenize, String.toList_ofList, trimmed, head]
  simp only [List.cons_append, List.head?_cons, Option.some.injEq, notPath, if_false]
  rw [← List.cons_append, encloses]

/-- A call with one quoted argument has the argument without its quotes as a literal. -/
theorem tokenize_quoted {name text : List Char} {quote : Char} (isName : IsName name)
    (isQuote' : isQuote quote) (noQuote : quote ∉ text) (noBackslash : '\\' ∉ text) :
    tokenize (String.ofList (name ++ '(' :: (quote :: text ++ [quote]) ++ [')'])) =
      .ok [.call (String.ofList name), .raw (String.ofList text), .close] := by
  have spells : SpellsAll [.raw (String.ofList text)] ((quote :: text ++ [quote]) ++ []) :=
    .last (.quoted isQuote' noQuote noBackslash) isGap_nil
  obtain ⟨last, scans⟩ := spells.scans isGap_nil
  have tokens := spells.callTokens isGap_nil name
  rw [List.append_nil, List.nil_append] at scans tokens
  rw [tokenize_call isName scans, tokens]
  rfl

end Expression

namespace Builder

open Expression (openMark)

/-- The number that a literal argument is read as, if it is one: a decimal number if it holds a
point, and an integer otherwise. -/
def numberOf? (raw : String) : Option Value :=
  if raw.toList.contains '.' then (Decimal.read? raw.toList).map .decimal
  else (Number.readInteger? raw.toList).map .int

/-- The value that a literal argument without spans is read as: a number, a truth value or else a
text. -/
def literalOf (raw : String) : Value :=
  match numberOf? raw with
  | some v => v
  | none =>
    if Text.lower raw = "true" then .bool true
    else if Text.lower raw = "false" then .bool false
    else .text raw

/-- The text of what a literal argument is read as. -/
def literalText (raw : String) : String :=
  match literalOf raw with
  | .decimal d => d.text
  | .int n => String.ofList (Number.intText n)
  | .bool b => if b then "true" else "false"
  | _ => raw

variable {raw : String}

/-- A text with a point is read as a decimal number or as no number. -/
theorem numberOf?_of_point (point : '.' ∈ raw.toList) :
    numberOf? raw = (Decimal.read? raw.toList).map .decimal :=
  if_pos (List.contains_iff_mem.mpr point)

/-- A text without a point is read as an integer or as no number. -/
theorem numberOf?_of_no_point (noPoint : '.' ∉ raw.toList) :
    numberOf? raw = (Number.readInteger? raw.toList).map .int :=
  if_neg (mt List.contains_iff_mem.mp noPoint)

/-- The ways in which a literal argument is read. -/
theorem literalOf_cases (raw : String) :
    (∃ d, '.' ∈ raw.toList ∧ Decimal.read? raw.toList = some d ∧ literalOf raw = .decimal d) ∨
    (∃ n, '.' ∉ raw.toList ∧ Number.readInteger? raw.toList = some n ∧ literalOf raw = .int n) ∨
    (∃ b : Bool, Text.lower raw = (if b then "true" else "false") ∧ literalOf raw = .bool b) ∨
    literalOf raw = .text raw := by
  unfold literalOf
  cases number : numberOf? raw with
  | some v =>
    by_cases point : '.' ∈ raw.toList
    · rw [numberOf?_of_point point] at number
      obtain ⟨d, read, rfl⟩ := Option.map_eq_some_iff.mp number
      exact .inl ⟨d, point, read, rfl⟩
    · rw [numberOf?_of_no_point point] at number
      obtain ⟨n, read, rfl⟩ := Option.map_eq_some_iff.mp number
      exact .inr (.inl ⟨n, point, read, rfl⟩)
  | none =>
    refine .inr (.inr ?_)
    dsimp only
    split
    · next word => exact .inl ⟨true, word, rfl⟩
    · split
      · next word => exact .inl ⟨false, word, rfl⟩
      · exact .inr rfl

/-- Without spans an argument is read without looking at the document. -/
theorem literalArgument_of_free (evaluate : Evaluator) (document : Value)
    (free : ¬openMark <:+: raw.toList) :
    literalArgument evaluate document raw = .ok (literalOf raw) := by
  unfold literalArgument literalOf numberOf?
  rw [interpolate_of_free evaluate document free]
  dsimp only
  cases (if raw.toList.contains '.' then (Decimal.read? raw.toList).map Value.decimal
    else (Number.readInteger? raw.toList).map Value.int) with
  | some v => rfl
  | none => dsimp only; split <;> [rfl; split <;> rfl]

/-- What is read is shown as its text. -/
theorem toText_literalOf (raw : String) : (literalOf raw).toText = .ok (literalText raw) := by
  unfold literalText
  rcases literalOf_cases raw with ⟨d, -, -, value⟩ | ⟨n, -, read, value⟩ | ⟨b, -, value⟩ | value
  · rw [value]
    rfl
  · rw [value, Value.toText, Json.intChars_of_short (Number.isLong_of_readInteger? read)]
    rfl
  · rw [value]
    rfl
  · rw [value]
    rfl

/-- What is read is one item of a concatenation. -/
theorem flatten_literalOf (raw : String) : Function.flatten [literalOf raw] = [literalOf raw] := by
  rcases literalOf_cases raw with ⟨d, -, -, value⟩ | ⟨n, -, -, value⟩ | ⟨b, -, value⟩ | value
  all_goals
    rw [value]
    rfl

/-- A literal argument without spans is concatenated as its text. -/
theorem applyConcat_literalOf (requested : Option Tag) (raw : String) :
    Function.applyConcat requested [literalOf raw] = .ok (.text (literalText raw)) := by
  rw [Function.applyConcat, flatten_literalOf, List.mapM_cons, toText_literalOf]
  simp [pure, Except.pure, String.join]

/-- The value of a call with one literal argument without spans is the function's for what the
argument is read as, if the call is no level too deep. -/
theorem runCall_literal (b : Builder) (levels : Nat) (evaluate : Nat → Evaluator) (tag : Tag)
    (document : Value) {name : String} {function : Function}
    (known : b.functions.get name = .ok function) (free : ¬openMark <:+: raw.toList) :
    runCall b levels evaluate tag document name [.raw raw, .close] =
      if levels = 0 then b.tooDeep
      else (function.invoke (some tag) [literalOf raw]).map fun v => (v, []) := by
  unfold runCall
  by_cases deep : levels = 0
  · rw [if_pos deep, if_pos deep]
  · rw [if_neg deep, if_neg deep, known, Outcome.ok_bind, runTokens,
      literalArgument_of_free _ _ free, Outcome.ok_bind]
    have closes : runTokens b levels evaluate tag document [.close]
        (Frame.push ⟨function, []⟩ (literalOf raw)) [] = (do
          return (← function.invoke (some tag) [literalOf raw], [])) := rfl
    rw [closes]
    cases function.invoke (some tag) [literalOf raw] <;> rfl

/-- The standard concatenation gives a text for the text of what a literal argument is read as. -/
theorem invoke_concat_literalOf (raw : String) :
    Function.concat.invoke (some (.one .string)) [literalOf raw] =
      .ok (.text (literalText raw)) := by
  have admitted : Function.concat.refused? (some (.one .string)) = none := by rfl
  have enough : ¬(([literalOf raw].length : Int) < Function.concat.minArguments) := by
    rw [List.length_singleton]
    decide
  rw [Function.invoke, admitted]
  dsimp only
  rw [if_neg enough]
  exact applyConcat_literalOf (some (.one .string)) raw

/-- A concatenation of one quoted text gives the text of what the quoted text is read as, wherever
the limit allows a call. -/
theorem build_concat_quoted (limit : Int) {t : String} (noQuote : '"' ∉ t.toList)
    (noBackslash : '\\' ∉ t.toList) (free : ¬openMark <:+: t.toList) (document : Value) :
    (⟨.standard, limit⟩ : Builder).build (.text ("str concat(\"" ++ t ++ "\")")) document =
      if limit < 1 then Outcome.schema (.tooDeep limit) else .ok (.text (literalText t)) := by
  let call : List Char := "concat".toList ++ '(' :: ('"' :: t.toList ++ ['"']) ++ [')']
  have isName : Expression.IsName "concat".toList := ⟨⟨'c', by decide⟩, List.all_eq_true.mp rfl⟩
  have tag : Tag.ofWord? "str" = some (.one .string) := (Tag.ofWord?_words (.one .string)).1
  have split : splitTag? ("str concat(\"" ++ t ++ "\")").toList = some ("str".toList, call) := by
    have whole : "str concat(\"" ++ t ++ "\")" = "str" ++ " " ++ String.ofList call := by
      rw [← String.toList_inj]
      simp [call]
    have start : Text.trimStart call = call := Text.trimStart_of_head _ (by decide)
    rw [whole, splitTag?_word tag, String.toList_ofList, start]
    rfl
  have tokens : Expression.tokenize (String.ofList call) =
      .ok [.call "concat", .raw t, .close] := by
    have quoted := Expression.tokenize_quoted isName (by decide) noQuote noBackslash
    rwa [String.ofList_toList, String.ofList_toList] at quoted
  have known : (⟨.standard, limit⟩ : Builder).functions.get "concat" = .ok Function.concat := by rfl
  by_cases negative : limit < 0
  · have none : (⟨.standard, limit⟩ : Builder).levels = 0 := levels_eq_zero_iff.mpr negative
    have tooLow : limit < 1 := by omega
    rw [build_of_levels_eq_zero none, if_pos tooLow]
    rfl
  · have allowed : (⟨.standard, limit⟩ : Builder).levels ≠ 0 := mt levels_eq_zero_iff.mp negative
    obtain ⟨below, more⟩ := Nat.exists_eq_succ_of_ne_zero allowed
    have count : (limit + 1).toNat = below + 1 := more
    rw [build_call more split tag tokens, runCall_literal _ _ _ _ _ known free,
      invoke_concat_literalOf]
    by_cases deep : below = 0
    · have tooLow : limit < 1 := by omega
      rw [if_pos deep, if_pos tooLow]
      rfl
    · have enough : ¬limit < 1 := by omega
      rw [if_neg deep, if_neg enough]
      rfl

/-- A text is kept by a quoted argument, or else the text is written in another way than the number
or the truth value that it is read as. -/
theorem literalText_cases (raw : String) :
    literalText raw = raw ∨
    (∃ d, '.' ∈ raw.toList ∧ Decimal.read? raw.toList = some d ∧ literalText raw = d.text) ∨
    (∃ n, '.' ∉ raw.toList ∧ Number.readInteger? raw.toList = some n ∧
      literalText raw = String.ofList (Number.intText n)) ∨
    ∃ b : Bool, Text.lower raw = (if b then "true" else "false") ∧
      literalText raw = Text.lower raw := by
  rcases literalOf_cases raw with ⟨d, point, read, value⟩ | ⟨n, noPoint, read, value⟩ |
    ⟨b, word, value⟩ | value
  · refine .inr (.inl ⟨d, point, read, ?_⟩)
    rw [literalText, value]
  · refine .inr (.inr (.inl ⟨n, noPoint, read, ?_⟩))
    rw [literalText, value]
  · refine .inr (.inr (.inr ⟨b, word, ?_⟩))
    rw [word, literalText, value]
  · refine .inl ?_
    rw [literalText, value]

/-- A text with a character that stands in no number and no word is kept. -/
theorem literalText_of_isForeign {c : Char} (foreign : Number.IsForeign c)
    (among : c ∈ raw.toList) : literalText raw = raw := by
  rcases literalText_cases raw with kept | ⟨d, -, read, -⟩ | ⟨n, -, read, -⟩ | ⟨b, word, -⟩
  · exact kept
  · rw [Decimal.read?_eq_none foreign among] at read
    cases read
  · rw [foreign.readInteger?_eq_none among] at read
    cases read
  · -- the character would stand in the word, which has letters only
    have inside : c ∈ (Text.lower raw).toList := by
      rw [Text.lower, String.toList_ofList, ← (Decimal.plain_of_isForeign foreign).1]
      exact List.mem_map_of_mem among
    have letters : ∀ letter ∈ (if b then "true" else "false").toList,
        Char.isAlphanum letter := by
      refine List.all_eq_true.mp ?_
      cases b <;> rfl
    rw [word] at inside
    exact absurd rfl (foreign.ne_of_isAlphanum (letters c inside))

/-- The usual text of an integer is kept, unless the integer is too long to be read. -/
theorem literalText_intText {n : Int} (short : Number.isLong n = false) :
    literalText (String.ofList (Number.intText n)) = String.ofList (Number.intText n) := by
  have noPoint : '.' ∉ (String.ofList (Number.intText n)).toList := by
    rw [String.toList_ofList]
    intro point
    unfold Number.intText at point
    have noDigit : '.' ∉ Number.digits n.natAbs := fun digit =>
      absurd (Number.areDigits_digits _ _ digit) (by decide)
    split at point
    · exact noDigit ((List.mem_cons.mp point).resolve_left (by decide))
    · exact noDigit point
  have read : numberOf? (String.ofList (Number.intText n)) = some (.int n) := by
    rw [numberOf?_of_no_point noPoint, String.toList_ofList, Number.readInteger?_intText short]
    rfl
  rw [literalText, literalOf, read]

/-- The usual text of a decimal number is kept if it has a point. -/
theorem literalText_text {d : Decimal} (admitted : d.IsAdmitted) (point : '.' ∈ d.chars) :
    literalText d.text = d.text := by
  have letters : d.text.toList = d.chars := String.toList_ofList
  have read : numberOf? d.text = some (.decimal d) := by
    rw [numberOf?_of_point (letters ▸ point), letters, Decimal.read?_chars admitted]
    rfl
  rw [literalText, literalOf, read]

/-- A quoted argument is not always a text: leading zeros are lost. -/
theorem not_build_concat_eq_self :
    ¬∀ t : String, '"' ∉ t.toList → '\\' ∉ t.toList → ¬openMark <:+: t.toList →
      ∀ document, ({} : Builder).build (.text ("str concat(\"" ++ t ++ "\")")) document =
        .ok (.text t) := by
  intro kept
  have noQuote : '"' ∉ "007".toList := by decide
  have noBackslash : '\\' ∉ "007".toList := by decide
  have free : ¬openMark <:+: "007".toList := by decide +kernel
  have built := build_concat_quoted 100 noQuote noBackslash free .null
  have shown : literalText "007" = "7" := by decide +kernel
  rw [kept "007" noQuote noBackslash free .null, if_neg (by decide), shown] at built
  exact absurd (Value.text.inj (Except.ok.inj built)) (by decide)

/-- What a concatenation of one quoted text without spans gives, whatever the document: the text of
what the quoted text is read as, wherever the limit allows a call. This is the quoted text itself
unless that is read as a number, which is then written in the usual way, or as a truth value, which
is then written in lower case. So a text that holds a character of no number and no word comes back
as it is, and so do the usual texts of integers and of decimal numbers with a point. -/
theorem build_concat_eq_literalText (limit : Int) {t : String} (noQuote : '"' ∉ t.toList)
    (noBackslash : '\\' ∉ t.toList) (free : ¬openMark <:+: t.toList) :
    (∀ document,
      (⟨.standard, limit⟩ : Builder).build (.text ("str concat(\"" ++ t ++ "\")")) document =
        if limit < 1 then Outcome.schema (.tooDeep limit) else .ok (.text (literalText t))) ∧
    (literalText t = t ∨
      (∃ d, '.' ∈ t.toList ∧ Decimal.read? t.toList = some d ∧ literalText t = d.text) ∨
      (∃ n, '.' ∉ t.toList ∧ Number.readInteger? t.toList = some n ∧
        literalText t = String.ofList (Number.intText n)) ∨
      ∃ b : Bool, Text.lower t = (if b then "true" else "false") ∧ literalText t = Text.lower t) ∧
    (∀ c ∈ t.toList, Number.IsForeign c → literalText t = t) ∧
    (∀ n, Number.isLong n = false → t = String.ofList (Number.intText n) → literalText t = t) ∧
    ∀ d : Decimal, d.IsAdmitted → '.' ∈ d.chars → t = d.text → literalText t = t := by
  refine ⟨build_concat_quoted limit noQuote noBackslash free, literalText_cases t,
    fun c among foreign => literalText_of_isForeign foreign among, ?_, ?_⟩
  · rintro n short rfl
    exact literalText_intText short
  · rintro d admitted point rfl
    exact literalText_text admitted point

/-- A comma makes a text of digits, which keeps its zeros and blanks. -/
theorem build_concat_eq_literalText_comma :
    let t := " 007, TRUE "
    '"' ∉ t.toList ∧ '\\' ∉ t.toList ∧ ¬openMark <:+: t.toList ∧
    ∀ document, ({} : Builder).build (.text ("str concat(\"" ++ t ++ "\")")) document =
      .ok (.text t) := by
  intro t
  have noQuote : '"' ∉ t.toList := by decide
  have noBackslash : '\\' ∉ t.toList := by decide
  have free : ¬openMark <:+: t.toList := by decide +kernel
  obtain ⟨value, -, foreign, -⟩ := build_concat_eq_literalText 100 noQuote noBackslash free
  have comma : Number.IsForeign ',' := by constructor <;> decide
  have kept : literalText t = t := foreign ',' (by decide) comma
  refine ⟨noQuote, noBackslash, free, fun document => ?_⟩
  have built := value document
  rwa [if_neg (by decide), kept] at built

end Builder

end Stencil
