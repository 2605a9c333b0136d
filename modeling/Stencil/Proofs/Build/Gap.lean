import Stencil.Proofs.Build.Scalar
import Stencil.Proofs.Build.Splice

/-!
# The blanks after a tag

Any blanks may separate the word at the head of an expression from what follows: how many there are
and of which kind has no say in what is built. The same holds of an expression inside of a span, as
long as the span stays on one line. A line end, even between the tag and its expression, keeps the
marks around it from being a span, and the text stands for itself.
-/

namespace Stencil.Builder

open Expression (IsBody closeMark openMark plain)

/-- What separates a tag from its expression: one blank or more. -/
structure IsGap (gap : List Char) : Prop where
  /-- There is a blank. -/
  nonempty : gap ≠ []
  /-- There is nothing but blanks. -/
  blank : ∀ c ∈ gap, Text.isBlank c

/-- Blanks can be told one by one. -/
theorem isGap_of_all {gap : List Char} (nonempty : gap ≠ []) (all : gap.all Text.isBlank = true) :
    IsGap gap :=
  ⟨nonempty, List.all_eq_true.mp all⟩

/-- A word that may stand at the head of an expression, be it known as a tag or not. -/
structure IsWord (word : List Char) : Prop where
  /-- There is a character. -/
  nonempty : word ≠ []
  /-- There is no blank. -/
  solid : ∀ c ∈ word, Text.isBlank c = false
  /-- There is no character of which every mark has one. -/
  noMark : '@' ∉ word

/-- Every word that names a tag may stand there. -/
theorem IsWord.of_ofWord? {word : String} {tag : Tag} (known : Tag.ofWord? word = some tag) :
    IsWord word.toList := by
  obtain ⟨nonempty, solid⟩ := Tag.isSolid_of_ofWord? known
  exact ⟨nonempty, solid, Tag.at_sign_not_mem_of_ofWord? known⟩

/-- The characters of a word, blanks and an expression. -/
def gapped (word gap rest : List Char) : List Char := word ++ gap ++ rest

/-- A text with an expression in a span at its end. -/
def spanned (word gap rest : List Char) : List Char :=
  ['a'] ++ openMark ++ gapped word gap rest ++ closeMark

section

variable {word gap gap' rest : List Char}

/-- The word and the expression are told apart, whatever blanks there are. -/
theorem splitTag?_gapped (isWord : IsWord word) (isGap : IsGap gap)
    (starts : ∃ c ∈ rest.head?, Text.isBlank c = false) :
    splitTag? (gapped word gap rest) = some (word, rest) := by
  obtain ⟨c, first, visible⟩ := starts
  obtain ⟨others, rfl⟩ := List.head?_eq_some_iff.mp first
  have kept : Text.trimStart (c :: others) = c :: others := Text.trimStart_of_head others visible
  rw [gapped, splitTag?_gap isWord.nonempty isWord.solid isGap.nonempty isGap.blank, kept,
    List.isEmpty_cons, if_neg Bool.false_ne_true]

/-- At every level the value of an expression is the same, whatever blanks there are. -/
theorem evaluateAt_gapped (b : Builder) (levels skip : Nat) (isWord : IsWord word)
    (isGap : IsGap gap) (isGap' : IsGap gap') (starts : ∃ c ∈ rest.head?, Text.isBlank c = false)
    (document : Value) :
    evaluateAt b levels skip (.scalar (String.ofList (gapped word gap rest))) document =
      evaluateAt b levels skip (.scalar (String.ofList (gapped word gap' rest))) document := by
  rw [evaluateAt_skip]
  cases levels - skip with
  | zero => rfl
  | succ below =>
    rw [evaluateAt, step, step, scalarValue, scalarValue, String.toList_ofList,
      String.toList_ofList, splitTag?_gapped isWord isGap starts,
      splitTag?_gapped isWord isGap' starts]

/-- A mark of two characters that neither of two texts holds stands at no border between them that
its first character does not begin. -/
theorem not_isInfix_append {x y : Char} {before after : List Char} (free : ¬[x, y] <:+: before)
    (free' : ¬[x, y] <:+: after) (border : before.getLast? ≠ some x) :
    ¬[x, y] <:+: before ++ after := by
  intro inside
  rcases List.infix_append_iff.mp inside with left | right | ⟨head, tail, split, ends, begins⟩
  · exact free left
  · exact free' right
  · match head with
    | [] =>
      rw [List.nil_append] at split
      exact free' (split ▸ begins.isInfix)
    | [c] =>
      obtain ⟨front, rfl⟩ := ends
      rw [List.getLast?_concat] at border
      rw [List.singleton_append] at split
      exact border (congrArg some (List.cons.inj split).1.symm)
    | c :: d :: more =>
      obtain ⟨rfl, rfl, left⟩ : x = c ∧ y = d ∧ [] = more ++ tail := by simpa using split
      obtain ⟨rfl, -⟩ := List.append_eq_nil_iff.mp left.symm
      exact free ends.isInfix

/-- An expression holds a mark only if what follows the blanks does. -/
theorem not_isInfix_gapped {x y : Char} (isWord : IsWord word) (isGap : IsGap gap)
    (mark : '@' ∈ [x, y]) (visible : Text.isBlank x = false) (free : ¬[x, y] <:+: rest) :
    ¬[x, y] <:+: gapped word gap rest := by
  have noMark : '@' ∉ word ++ gap := by
    intro among
    rcases List.mem_append.mp among with inWord | inGap
    · exact isWord.noMark inWord
    · exact absurd (isGap.blank _ inGap) (by decide)
  refine not_isInfix_append (fun inside => noMark (inside.subset mark)) free ?_
  intro last
  rw [List.getLast?_append, List.getLast?_eq_some_getLast isGap.nonempty, Option.some_or] at last
  have blank := isGap.blank _ (List.getLast_mem isGap.nonempty)
  rw [Option.some.inj last, visible] at blank
  cases blank

/-- The line ends of an expression are those of the blanks and of what follows them. -/
theorem lineEnd_mem_gapped_iff (isWord : IsWord word) :
    '\n' ∈ gapped word gap rest ↔ '\n' ∈ gap ++ rest := by
  have none : '\n' ∉ word := fun among => absurd (isWord.solid _ among) (by decide)
  rw [gapped, List.append_assoc, List.mem_append, or_iff_right none]

/-- An expression on one line is the body of a span. -/
theorem isBody_gapped (isWord : IsWord word) (isGap : IsGap gap) (noOpen : ¬openMark <:+: rest)
    (noClose : ¬closeMark <:+: rest) (sameLine : '\n' ∉ gap ++ rest) :
    IsBody (gapped word gap rest) where
  noOpen := not_isInfix_gapped isWord isGap (by decide) (by decide) noOpen
  noClose := not_isInfix_gapped isWord isGap (by decide) (by decide) noClose
  noLineEnd := mt (lineEnd_mem_gapped_iff isWord).mp sameLine

/-- A text with a span at its end is one literal. -/
theorem tokenize_spanned (word gap rest : List Char) :
    Expression.tokenize (String.ofList (spanned word gap rest)) =
      .ok [.raw (String.ofList (spanned word gap rest))] := by
  have ends : spanned word gap rest =
      [] ++ ('a' :: ('@' :: '\x7b' :: (gapped word gap rest ++ ['\x7d'])) ++ ['@']) ++ [] := by
    simp [spanned, openMark, closeMark]
  have trimmed : Text.trim (spanned word gap rest) =
      'a' :: ('@' :: '\x7b' :: (gapped word gap rest ++ ['\x7d'])) ++ ['@'] := by
    rw [ends]
    have none : ∀ c ∈ ([] : List Char), Text.isBlank c := List.forall_mem_nil _
    exact Text.trim_surrounded none none _ (by decide) (by decide)
  apply Expression.tokenize_raw
  · rw [String.toList_ofList, trimmed]
    simp
  · rw [String.toList_ofList, trimmed]
    rfl

/-- A text with a span at its end is interpolated, where the limit allows it. -/
theorem build_spanned (b : Builder) (word gap rest : List Char) (document : Value) :
    b.build (.text ("str " ++ String.ofList (spanned word gap rest))) document =
      if b.maxDepth < 0 then b.tooDeep
      else (interpolate (evaluateAt b (b.levels - 1) 0) document
        (String.ofList (spanned word gap rest))).map .text := by
  by_cases negative : b.maxDepth < 0
  · rw [if_pos negative, build_of_levels_eq_zero (levels_eq_zero_iff.mpr negative)]
  · obtain ⟨below, more⟩ := Nat.exists_eq_succ_of_ne_zero (mt levels_eq_zero_iff.mp negative)
    have tag : Tag.ofWord? "str" = some (.one .string) := (Tag.ofWord?_words (.one .string)).1
    have start : Text.trimStart (spanned word gap rest) = spanned word gap rest :=
      Text.trimStart_of_head _ (by decide)
    have split : splitTag? ("str " ++ String.ofList (spanned word gap rest)).toList =
        some ("str".toList, spanned word gap rest) := by
      have parts : splitTag? ("str" ++ " " ++ String.ofList (spanned word gap rest)).toList = _ :=
        splitTag?_word tag
      rwa [String.toList_ofList, start] at parts
    rw [if_neg negative, build_literal more split tag (tokenize_spanned word gap rest), more,
      Nat.succ_sub_one]

/-- A span at the end of a text is replaced by the text of its value. -/
theorem interpolate_spanned (evaluate : Evaluator) (document : Value) (isWord : IsWord word)
    (isGap : IsGap gap) (noOpen : ¬openMark <:+: rest) (noClose : ¬closeMark <:+: rest)
    (sameLine : '\n' ∉ gap ++ rest) :
    interpolate evaluate document (String.ofList (spanned word gap rest)) =
      (spanText evaluate document (gapped word gap rest)).map ("a" ++ ·) := by
  have isBody := isBody_gapped isWord isGap noOpen noClose sameLine
  have clean : ∀ span ∈ [(gapped word gap rest, ([] : List Char))],
      IsBody span.1 ∧ ¬openMark <:+: span.2 :=
    List.forall_mem_singleton.mpr ⟨isBody, by simp [openMark]⟩
  have free : ¬openMark <:+: ['a'] := by decide
  have pieces := Expression.pieces_weave free clean
  rw [Expression.weave, Expression.weave, List.append_nil] at pieces
  rw [interpolate_eq, String.toList_ofList, spanned, pieces, piecesText_wovenPieces]
  rw [List.mapM_cons, List.mapM_nil]
  cases spanText evaluate document (gapped word gap rest) with
  | error failure => rfl
  | ok text =>
    have spelled : String.ofList (spliced ['a'] [(text, [])]) = "a" ++ text := by
      rw [spliced, spliced, List.append_nil, String.ofList_append, String.ofList_toList]
    exact congrArg Except.ok spelled

/-- Marks that a line end keeps apart stay in the text. -/
theorem interpolate_spanned_of_lineEnd (evaluate : Evaluator) (document : Value)
    (isWord : IsWord word) (isGap : IsGap gap) (noOpen : ¬openMark <:+: rest)
    (noClose : ¬closeMark <:+: rest) (lineEnd : '\n' ∈ gap ++ rest) :
    interpolate evaluate document (String.ofList (spanned word gap rest)) =
      .ok (String.ofList (spanned word gap rest)) := by
  have free : ¬openMark <:+: ['a'] := by decide
  have pieces := Expression.pieces_of_lineEnd free
    (not_isInfix_gapped isWord isGap (by decide) (by decide) noOpen)
    (not_isInfix_gapped isWord isGap (by decide) (by decide) noClose)
    ((lineEnd_mem_gapped_iff isWord).mpr lineEnd)
  have alone := piecesText_plain evaluate document (spanned word gap rest) []
  rw [List.append_nil] at alone
  rw [interpolate_eq, String.toList_ofList, spanned, pieces, ← spanned, alone, piecesText,
    Outcome.map_ok, Outcome.map_ok, List.append_nil]

/-- The blanks between a tag and its expression are immaterial: the outcome, be it a value or a
failure, is the same for all of them, and so is that of a text with the expression in a span, if the
span stays on one line. Where a line end stands in the blanks or in the expression, the marks are no
span and the text is built as it stands. -/
theorem build_congr_gap (b : Builder) (isWord : IsWord word) (isGap : IsGap gap)
    (isGap' : IsGap gap') (starts : ∃ c ∈ rest.head?, Text.isBlank c = false) (document : Value) :
    b.build (.text (String.ofList (gapped word gap rest))) document =
      b.build (.text (String.ofList (gapped word gap' rest))) document ∧
    (¬openMark <:+: rest → ¬closeMark <:+: rest →
      ('\n' ∉ gap ++ rest → '\n' ∉ gap' ++ rest →
        b.build (.text ("str " ++ String.ofList (spanned word gap rest))) document =
          b.build (.text ("str " ++ String.ofList (spanned word gap' rest))) document) ∧
      ('\n' ∈ gap ++ rest →
        b.build (.text ("str " ++ String.ofList (spanned word gap rest))) document =
          if b.maxDepth < 0 then b.tooDeep
          else .ok (.text (String.ofList (spanned word gap rest))))) := by
  refine ⟨?_, fun noOpen noClose => ⟨fun sameLine sameLine' => ?_, fun lineEnd => ?_⟩⟩
  · have same := evaluateAt_gapped b b.levels 0 isWord isGap isGap' starts document
    rwa [build, build, Schema.compile_text, Schema.compile_text, Outcome.ok_bind, Outcome.ok_bind,
      evaluate]
  · have same : spanText (evaluateAt b (b.levels - 1) 0) document (gapped word gap rest) =
        spanText (evaluateAt b (b.levels - 1) 0) document (gapped word gap' rest) := by
      rw [spanText, evaluateAt_gapped b _ 0 isWord isGap isGap' starts document, spanText]
    rw [build_spanned, build_spanned, interpolate_spanned _ _ isWord isGap noOpen noClose sameLine,
      interpolate_spanned _ _ isWord isGap' noOpen noClose sameLine', same]
  · rw [build_spanned,
      interpolate_spanned_of_lineEnd _ _ isWord isGap noOpen noClose lineEnd, Outcome.map_ok]

end

/-- A tab and an ideographic space do as well as a space: the truth value is found in both cases, by
itself and inside of a text. -/
theorem build_congr_gap_tab :
    let document : Value := .object [(.text "x", .bool true)]
    let word := "BOOL".toList
    let gap := [' ']
    let gap' := ['\t', '\u3000']
    let rest := "$.x".toList
    IsWord word ∧ IsGap gap ∧ IsGap gap' ∧ (∃ c ∈ rest.head?, Text.isBlank c = false) ∧
    ¬openMark <:+: rest ∧ ¬closeMark <:+: rest ∧ '\n' ∉ gap ++ rest ∧ '\n' ∉ gap' ++ rest ∧
    ({} : Builder).build (.text (String.ofList (gapped word gap' rest))) document =
      .ok (.bool true) ∧
    ({} : Builder).build (.text ("str " ++ String.ofList (spanned word gap' rest))) document =
      .ok (.text "atrue") := by
  have found : ({} : Builder).build (.text (String.ofList (gapped "BOOL".toList [' ']
      "$.x".toList))) (.object [(.text "x", .bool true)]) = .ok (.bool true) := by rfl
  have text : spanText (evaluateAt {} 100 0) (.object [(.text "x", .bool true)])
      (gapped "BOOL".toList [' '] "$.x".toList) = .ok "true" := by rfl
  intro document word gap gap' rest
  have known : Tag.ofWord? "BOOL" = some (.one .boolean) := by decide
  have isWord : IsWord word := IsWord.of_ofWord? known
  have isGap : IsGap gap := isGap_of_all (by decide) (by decide)
  have isGap' : IsGap gap' := isGap_of_all (by decide) (by decide)
  have starts : ∃ c ∈ rest.head?, Text.isBlank c = false := ⟨'$', rfl, by decide⟩
  have noOpen : ¬openMark <:+: rest := by decide
  have noClose : ¬closeMark <:+: rest := by decide
  have sameLine : '\n' ∉ gap ++ rest := by decide
  have sameLine' : '\n' ∉ gap' ++ rest := by decide
  have same := build_congr_gap {} isWord isGap isGap' starts document
  have levels : ({} : Builder).levels - 1 = 100 := by decide
  have spliced : ({} : Builder).build (.text ("str " ++ String.ofList (spanned word gap rest)))
      document = .ok (.text "atrue") := by
    rw [build_spanned, if_neg (by decide),
      interpolate_spanned _ _ isWord isGap noOpen noClose sameLine, levels, text]
    rfl
  exact ⟨isWord, isGap, isGap', starts, noOpen, noClose, sameLine, sameLine',
    same.1.symm.trans found, ((same.2 noOpen noClose).1 sameLine sameLine').symm.trans spliced⟩

/-- A line end in place of a space keeps a span from being one, although the expression has the same
value by itself. -/
theorem build_ne_of_lineEnd :
    let document : Value := .object [(.text "x", .text "v")]
    let word := "str".toList
    let rest := "$.x".toList
    IsWord word ∧ IsGap [' '] ∧ IsGap ['\n'] ∧ ¬openMark <:+: rest ∧ ¬closeMark <:+: rest ∧
    ({} : Builder).build (.text (String.ofList (gapped word ['\n'] rest))) document =
      .ok (.text "v") ∧
    ({} : Builder).build (.text ("str " ++ String.ofList (spanned word [' '] rest))) document =
      .ok (.text "av") ∧
    ({} : Builder).build (.text ("str " ++ String.ofList (spanned word ['\n'] rest))) document =
      .ok (.text "a@\x7bstr\n$.x\x7d@") := by
  have found : ({} : Builder).build (.text (String.ofList (gapped "str".toList ['\n']
      "$.x".toList))) (.object [(.text "x", .text "v")]) = .ok (.text "v") := by rfl
  have text : spanText (evaluateAt {} 100 0) (.object [(.text "x", .text "v")])
      (gapped "str".toList [' '] "$.x".toList) = .ok "v" := by rfl
  intro document word rest
  have known : Tag.ofWord? "str" = some (.one .string) := by decide
  have isWord : IsWord word := IsWord.of_ofWord? known
  have isSpace : IsGap [' '] := isGap_of_all (by decide) (by decide)
  have isLineEnd : IsGap ['\n'] := isGap_of_all (by decide) (by decide)
  have noOpen : ¬openMark <:+: rest := by decide
  have noClose : ¬closeMark <:+: rest := by decide
  have allowed : ¬({} : Builder).maxDepth < 0 := by decide
  have levels : ({} : Builder).levels - 1 = 100 := by decide
  refine ⟨isWord, isSpace, isLineEnd, noOpen, noClose, found, ?_, ?_⟩
  · rw [build_spanned, if_neg allowed,
      interpolate_spanned _ _ isWord isSpace noOpen noClose (by decide), levels, text]
    rfl
  · rw [build_spanned, if_neg allowed,
      interpolate_spanned_of_lineEnd _ _ isWord isLineEnd noOpen noClose (by decide)]
    rfl

end Stencil.Builder
