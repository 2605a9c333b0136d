import Stencil.Expression.Span

/-!
# Texts woven from literals and spans

A text that is written as literals with spans between them is taken apart into exactly those
literals and spans. A literal may hold anything but an opening mark, a body anything but a mark or
a line end, so single characters of a mark may stand at every border between the two.
-/

namespace Stencil.Expression

/-- The mark that closes a span. -/
def closeMark : List Char := ['\x7d', '@']

/-- The body of a span. -/
structure IsBody (body : List Char) : Prop where
  /-- It holds no opening mark. -/
  noOpen : ¬openMark <:+: body
  /-- It holds no closing mark. -/
  noClose : ¬closeMark <:+: body
  /-- It holds no line end. -/
  noLineEnd : '\n' ∉ body

/-- A literal, and spans after it, each with the literal that follows it. -/
def weave : List Char → List (List Char × List Char) → List Char
  | literal, [] => literal
  | literal, (body, next) :: rest => literal ++ openMark ++ body ++ closeMark ++ weave next rest

/-- The pieces that a woven text is made of. -/
def wovenPieces : List Char → List (List Char × List Char) → List Piece
  | literal, [] => plain literal
  | literal, (body, next) :: rest => plain literal ++ .span body :: wovenPieces next rest

/-- A mark of two characters that a text does not hold does not start in it either, unless what
follows the text starts with the second character. -/
theorem not_isPrefix_append {a b : Char} {text : List Char} (nonempty : text ≠ [])
    (free : ¬[a, b] <:+: text) {after : List Char} (next : after.head? ≠ some b) :
    ¬[a, b] <+: text ++ after := by
  rintro ⟨tail, same⟩
  match text with
  | [] => exact nonempty rfl
  | [c] =>
    simp only [List.cons_append, List.nil_append, List.cons.injEq] at same
    rw [← same.2] at next
    exact next rfl
  | c :: d :: rest =>
    simp only [List.cons_append, List.nil_append, List.cons.injEq] at same
    obtain ⟨rfl, rfl, -⟩ := same
    exact free ⟨[], rest, rfl⟩

/-- A character outside of spans that starts no opening mark stands for itself. -/
theorem piecesFrom_none_cons {c : Char} {rest : List Char} (h : ¬openMark <+: c :: rest) :
    piecesFrom none (c :: rest) = .char c :: piecesFrom none rest := by
  rw [piecesFrom]
  rintro after rfl rfl
  exact h ⟨after, rfl⟩

/-- A character of a span that starts no mark and ends no line belongs to the body. -/
theorem piecesFrom_some_cons {c : Char} {rest : List Char} (noClose : ¬closeMark <+: c :: rest)
    (noOpen : ¬openMark <+: c :: rest) (sameLine : c ≠ '\n') (body : List Char) :
    piecesFrom (some body) (c :: rest) = piecesFrom (some (c :: body)) rest := by
  rw [piecesFrom, if_neg sameLine]
  · rintro after rfl rfl
    exact noClose ⟨after, rfl⟩
  · rintro after rfl rfl
    exact noOpen ⟨after, rfl⟩

/-- A literal stands for itself, whatever follows it but the end of a mark that it may have
begun. -/
theorem piecesFrom_literal {literal : List Char} (free : ¬openMark <:+: literal)
    {after : List Char} (next : after.head? ≠ some '\x7b') :
    piecesFrom none (literal ++ after) = plain literal ++ piecesFrom none after := by
  induction literal with
  | nil => rfl
  | cons c rest ih =>
    have start : ¬openMark <+: c :: rest ++ after :=
      not_isPrefix_append (List.cons_ne_nil c rest) free next
    have others : ¬openMark <:+: rest := fun inside =>
      free (inside.trans (List.suffix_cons c rest).isInfix)
    rw [List.cons_append] at start ⊢
    rw [piecesFrom_none_cons start, ih others]
    rfl

/-- What is read of the body of a span is added to it, whatever follows but the end of a mark that
it may have begun. -/
theorem piecesFrom_some_append {body : List Char} (isBody : IsBody body) (before : List Char)
    {after : List Char} (noClose : after.head? ≠ some '@') (noOpen : after.head? ≠ some '\x7b') :
    piecesFrom (some before) (body ++ after) =
      piecesFrom (some (body.reverse ++ before)) after := by
  induction body generalizing before with
  | nil => rfl
  | cons c rest ih =>
    have inner : IsBody rest :=
      { noOpen := fun inside => isBody.noOpen (inside.trans (List.suffix_cons c rest).isInfix)
        noClose := fun inside => isBody.noClose (inside.trans (List.suffix_cons c rest).isInfix)
        noLineEnd := fun inside => isBody.noLineEnd (List.mem_cons_of_mem c inside) }
    have noClose : ¬closeMark <+: c :: rest ++ after :=
      not_isPrefix_append (List.cons_ne_nil c rest) isBody.noClose noClose
    have noOpen : ¬openMark <+: c :: rest ++ after :=
      not_isPrefix_append (List.cons_ne_nil c rest) isBody.noOpen noOpen
    have sameLine : c ≠ '\n' := fun ends => isBody.noLineEnd (ends ▸ List.mem_cons_self)
    rw [List.cons_append] at noClose noOpen
    rw [List.cons_append, piecesFrom_some_cons noClose noOpen sameLine, ih inner,
      List.reverse_cons, List.append_assoc, List.singleton_append]

/-- The body of a span is read up to the closing mark. -/
theorem piecesFrom_body {body : List Char} (isBody : IsBody body) (before after : List Char) :
    piecesFrom (some before) (body ++ closeMark ++ after) =
      .span (before.reverse ++ body) :: piecesFrom none after := by
  -- the closing mark starts with a brace, the second character of neither mark
  have noClose : (closeMark ++ after).head? ≠ some '@' := by simp [closeMark]
  have noOpen : (closeMark ++ after).head? ≠ some '\x7b' := by simp [closeMark]
  have closes : piecesFrom (some (body.reverse ++ before)) (closeMark ++ after) =
      .span (body.reverse ++ before).reverse :: piecesFrom none after := rfl
  rw [List.append_assoc, piecesFrom_some_append isBody before noClose noOpen, closes,
    List.reverse_append, List.reverse_reverse]

/-- An opening mark whose span does not close on its line stands for itself, with all that is left
of the line. -/
theorem piecesFrom_line {line : List Char} (isBody : IsBody line) (before after : List Char) :
    piecesFrom (some before) (line ++ '\n' :: after) =
      plain (openMark ++ before.reverse ++ line ++ ['\n']) ++ piecesFrom none after := by
  have noClose : ('\n' :: after).head? ≠ some '@' := by simp
  have noOpen : ('\n' :: after).head? ≠ some '\x7b' := by simp
  have breaks : piecesFrom (some (line.reverse ++ before)) ('\n' :: after) =
      plain (openMark ++ (line.reverse ++ before).reverse ++ ['\n']) ++ piecesFrom none after := by
    rw [piecesFrom, if_pos rfl] <;> nofun
  rw [piecesFrom_some_append isBody before noClose noOpen, breaks, List.reverse_append,
    List.reverse_reverse, ← List.append_assoc]

/-- Between marks that a line end keeps apart there is no span: the text stands for itself. -/
theorem pieces_of_lineEnd {literal body : List Char} (free : ¬openMark <:+: literal)
    (noOpen : ¬openMark <:+: body) (noClose : ¬closeMark <:+: body) (lineEnd : '\n' ∈ body) :
    pieces (literal ++ openMark ++ body ++ closeMark) =
      plain (literal ++ openMark ++ body ++ closeMark) := by
  obtain ⟨line, others, rfl, noLineEnd⟩ := List.eq_append_cons_of_mem lineEnd
  have isBody : IsBody line :=
    { noOpen := fun inside => noOpen (inside.trans (List.prefix_append line _).isInfix)
      noClose := fun inside => noClose (inside.trans (List.prefix_append line _).isInfix)
      noLineEnd := noLineEnd }
  have rest : ¬openMark <:+: others := by
    intro inside
    have part : others <:+: line ++ '\n' :: others := ⟨line ++ ['\n'], [], by simp⟩
    exact noOpen (inside.trans part)
  have marked : (openMark ++ (line ++ '\n' :: (others ++ closeMark))).head? ≠ some '\x7b' := by
    simp [openMark]
  have closes : closeMark.head? ≠ some '\x7b' := by decide
  have opens : piecesFrom none (openMark ++ (line ++ '\n' :: (others ++ closeMark))) =
      piecesFrom (some []) (line ++ '\n' :: (others ++ closeMark)) := rfl
  have ends : piecesFrom none closeMark = plain closeMark := rfl
  have text : literal ++ openMark ++ (line ++ '\n' :: others) ++ closeMark =
      literal ++ (openMark ++ (line ++ '\n' :: (others ++ closeMark))) := by simp
  rw [pieces, text, piecesFrom_literal free marked, opens, piecesFrom_line isBody,
    piecesFrom_literal rest closes, ends]
  simp [plain]

/-- A woven text is taken apart into what it was woven from. -/
theorem pieces_weave {literal : List Char} (free : ¬openMark <:+: literal)
    {spans : List (List Char × List Char)}
    (clean : ∀ span ∈ spans, IsBody span.1 ∧ ¬openMark <:+: span.2) :
    pieces (weave literal spans) = wovenPieces literal spans := by
  induction spans generalizing literal with
  | nil =>
    have nothing : ([] : List Char).head? ≠ some '\x7b' := nofun
    have alone := piecesFrom_literal free nothing
    rw [List.append_nil] at alone
    rw [weave, pieces, alone, piecesFrom, List.append_nil]
    rfl
  | cons span rest ih =>
    obtain ⟨body, next⟩ := span
    obtain ⟨isBody, nextFree⟩ := clean (body, next) List.mem_cons_self
    have others := ih nextFree fun span among => clean span (List.mem_cons_of_mem _ among)
    have text : weave literal ((body, next) :: rest) =
        literal ++ (openMark ++ (body ++ closeMark ++ weave next rest)) := by
      simp only [weave, List.append_assoc]
    have opens : piecesFrom none (openMark ++ (body ++ closeMark ++ weave next rest)) =
        piecesFrom (some []) (body ++ closeMark ++ weave next rest) := rfl
    rw [pieces, text, piecesFrom_literal free (by simp [openMark]), opens, piecesFrom_body isBody]
    rw [pieces] at others
    rw [others]
    rfl

end Stencil.Expression
