import Mathlib.Data.List.TakeWhile
import Stencil.Console.Report
import Stencil.Proofs.Json.Failure
import Stencil.Proofs.Number.Numeral

/-!
# Lines that are always shown

A text that is escaped opens and closes nothing: scanned as markup, it consists of plain pieces, up
to backslashes at its end that may make the tag after it plain. So the line of an error is shown
whatever the message is, and the line of a request whatever the address is. A line that cannot be
shown is a breakdown, never an error for the caller.
-/

namespace Stencil.Console

open Outcome (FailsOnly)

section Breakdown

/-- Whether a word is a colour is told, or telling breaks down. -/
theorem breaksOnly_isColour (word : List Char) :
    FailsOnly Failure.IsBreakdown (isColour word) := by
  unfold isColour
  dsimp only
  split
  · exact .ok _
  · split
    · exact .ok _
    · split
      · exact .ok _
      · split
        · exact .error ⟨_, rfl⟩
        · exact .ok _
  · exact .ok _

/-- The look that words describe is told, or telling breaks down. -/
theorem Look.breaksOnly_read (look : Look) (words : List (List Char)) :
    FailsOnly Failure.IsBreakdown (Look.read look words) := by
  fun_induction Look.read look words with
  | case1 | case2 | case4 | case6 | case7 => exact .ok _
  | case5 _ _ _ _ _ _ _ _ _ ih | case8 _ _ _ _ _ _ _ _ ih | case9 _ _ _ _ _ _ _ _ _ ih => exact ih
  | case3 _ _ _ _ _ _ _ ih | case10 _ _ _ _ _ _ _ _ ih =>
    refine (breaksOnly_isColour _).bind fun colour => ?_
    split
    · exact ih
    · exact .ok _

/-- The plain form of a description is told, or telling breaks down. -/
theorem Look.breaksOnly_normalize (text : List Char) :
    FailsOnly Failure.IsBreakdown (Look.normalize text) := by
  unfold Look.normalize
  split
  · exact .ok _
  · refine (Look.breaksOnly_read _ _).bind fun look => ?_
    cases look <;> exact .ok _

/-- A tag is closed, or closing breaks down. -/
theorem breaksOnly_close (name : List Char) (opened : List OpenTag) :
    FailsOnly Failure.IsBreakdown (close name opened) := by
  have nothing : FailsOnly Failure.IsBreakdown
      (Outcome.defect .markup : Outcome (OpenTag × List OpenTag)) := .error ⟨_, rfl⟩
  have taken (tag : OpenTag) (rest : List OpenTag) : FailsOnly Failure.IsBreakdown
      (if tag.name.head? = some '@' && !tag.parameters.all areParameters then
        Outcome.defect .markup
      else return (tag, rest)) := by
    split
    · exact nothing
    · exact .ok _
  unfold close
  dsimp only
  split
  · exact nothing
  · next tag rest => exact taken tag rest
  · refine (Look.breaksOnly_normalize name).bind fun name => ?_
    cases takeNamed? name opened with
    | none => exact nothing
    | some found => exact taken found.1 found.2

/-- Pieces are shown, or showing breaks down. -/
theorem breaksOnly_renderPieces (opened : List OpenTag) (found : List Piece) :
    FailsOnly Failure.IsBreakdown (renderPieces opened found) := by
  induction found generalizing opened with
  | nil => exact .ok _
  | cons piece rest ih =>
    cases piece with
    | plain cs => exact (ih opened).map _
    | tag tag =>
      unfold renderPieces
      split
      · exact (breaksOnly_close _ _).bind fun closed => ih closed.2
      · exact (Look.breaksOnly_normalize _).bind fun name => ih _

/-- The look of a piece is told, or telling breaks down. -/
theorem breaksOnly_checkLook (piece : Piece) : FailsOnly Failure.IsBreakdown (checkLook piece) := by
  cases piece with
  | plain cs => exact .ok _
  | tag tag =>
    unfold checkLook
    dsimp only
    split
    · exact .ok _
    · exact (Look.breaksOnly_normalize _).bind fun _ => .ok _

/-- A line is shown, or showing breaks down. -/
theorem breaksOnly_line (markup : List Char) : FailsOnly Failure.IsBreakdown (line markup) := by
  have looks (found : List Piece) : FailsOnly Failure.IsBreakdown (found.forM checkLook) := by
    induction found with
    | nil => exact .ok _
    | cons piece rest ih => exact (breaksOnly_checkLook piece).bind fun _ => ih
  exact (breaksOnly_renderPieces _ _).bind fun shown => (looks _).bind fun _ => .ok _

/-- An address is shown if there is one. -/
theorem breaksOnly_urlMarkup (url : Option String) :
    FailsOnly Failure.IsBreakdown (urlMarkup url) := by
  cases url with
  | none => exact .error ⟨_, rfl⟩
  | some s => exact .ok _

/-- The line of a request is shown, or showing breaks down. -/
theorem breaksOnly_requestLine (index total : Nat) (request : Request) :
    FailsOnly Failure.IsBreakdown (requestLine index total request) :=
  (breaksOnly_urlMarkup _).bind fun _ => breaksOnly_line _

/-- A number of seconds is shown, or showing breaks down. -/
theorem breaksOnly_duration (x : Binary64) : FailsOnly Failure.IsBreakdown (duration x) := by
  unfold duration
  split
  · exact .ok _
  · split
    · exact .ok _
    · refine FailsOnly.map _ ?_
      unfold minutesOf
      split
      · exact .error ⟨_, rfl⟩
      · exact .ok _

/-- The line of a response is shown, or showing breaks down. -/
theorem breaksOnly_responseLine (current : Option Request) (index total : Nat)
    (response : Response) (seconds : Binary64) :
    FailsOnly Failure.IsBreakdown (responseLine current index total response seconds) := by
  unfold responseLine
  cases current with
  | none => exact (breaksOnly_duration seconds).bind fun _ => breaksOnly_line _
  | some request =>
    exact (breaksOnly_urlMarkup _).bind fun _ => (breaksOnly_duration seconds).bind fun _ =>
      breaksOnly_line _

end Breakdown

section Scanning

/-- A bracket of a tag. -/
def isBracket (c : Char) : Bool := c = '[' || c = ']'

/-- The name of a tag: it starts as one, and it holds no bracket. -/
def IsTag (tag : List Char) : Prop :=
  ∃ c inside, tag = c :: inside ∧ isTagStart c = true ∧ ∀ d ∈ inside, isBracket d = false

/-- No tag starts with a bracket. -/
theorem isBracket_of_isTagStart {c : Char} (starts : isTagStart c = true) :
    isBracket c = false := by
  rw [Bool.eq_false_iff]
  intro bracket
  rcases (by simpa [isBracket] using bracket : c = '[' ∨ c = ']') with rfl | rfl <;> cases starts

/-- What starts as a tag is one if a bracket closes it. -/
theorem tagAt?_cons {c : Char} (starts : isTagStart c = true) (rest : List Char) :
    tagAt? ('[' :: c :: rest) = match rest.dropWhile fun d => !isBracket d with
      | ']' :: after => some (c :: rest.takeWhile fun d => !isBracket d, after)
      | _ => none := by
  have same : (fun d => d ≠ '[' && d ≠ ']' : Char → Bool) = fun d => !isBracket d := by
    funext d
    simp [isBracket]
  have left : rest.drop (rest.takeWhile fun d => !isBracket d).length =
      rest.dropWhile fun d => !isBracket d :=
    (congrArg (List.drop _) List.takeWhile_append_dropWhile.symm).trans List.drop_left
  have reads : tagAt? ('[' :: c :: rest) = if isTagStart c then
      match rest.drop (rest.takeWhile fun d => d ≠ '[' && d ≠ ']').length with
      | ']' :: after => some (c :: rest.takeWhile fun d => d ≠ '[' && d ≠ ']', after)
      | _ => none
    else none := rfl
  rw [reads, if_pos starts, same, left]

/-- A tag is found whatever follows it. -/
theorem tagAt?_of_isTag {tag : List Char} (isTag : IsTag tag) (after : List Char) :
    tagAt? ('[' :: (tag ++ ']' :: after)) = some (tag, after) := by
  obtain ⟨c, inside, rfl, starts, free⟩ := isTag
  have passes : ∀ d ∈ inside, (!isBracket d) = true := fun d among => by rw [free d among]; rfl
  rw [List.cons_append, tagAt?_cons starts, List.takeWhile_append_of_pos passes,
    List.dropWhile_append_of_pos passes, List.takeWhile_cons_of_neg (by decide),
    List.dropWhile_cons_of_neg (by decide), List.append_nil]
  rfl

/-- What is found is a tag at the start of the text. -/
theorem of_tagAt? {cs tag after : List Char} (found : tagAt? cs = some (tag, after)) :
    IsTag tag ∧ cs = '[' :: (tag ++ ']' :: after) := by
  have opens : ∃ c rest, cs = '[' :: c :: rest ∧ isTagStart c = true := by
    unfold tagAt? at found
    split at found
    · split at found
      · next starts => exact ⟨_, _, rfl, starts⟩
      · cases found
    · cases found
  obtain ⟨c, rest, rfl, starts⟩ := opens
  rw [tagAt?_cons starts] at found
  split at found
  · next after closes =>
    cases found
    refine ⟨⟨c, _, rfl, starts, fun d among => ?_⟩, ?_⟩
    · simpa using List.mem_takeWhile_imp among
    · rw [List.cons_append, ← closes, List.takeWhile_append_dropWhile]
  · cases found

/-- Only a bracket opens a tag. -/
theorem tagAt?_of_ne {c : Char} (other : c ≠ '[') (rest : List Char) :
    tagAt? (c :: rest) = none := by
  cases found : tagAt? (c :: rest) with
  | none => rfl
  | some parts =>
    obtain ⟨-, whole⟩ := of_tagAt? found
    cases whole
    exact absurd rfl other

/-- Whether a bracket opens a tag is told by the character after it and by the next bracket. -/
theorem isSome_tagAt?_iff (cs : List Char) :
    (tagAt? ('[' :: cs)).isSome = true ↔
      (∃ c, cs.head? = some c ∧ isTagStart c = true) ∧ cs.find? isBracket = some ']' := by
  constructor
  · intro found
    obtain ⟨⟨tag, after⟩, found⟩ := Option.isSome_iff_exists.mp found
    obtain ⟨⟨c, inside, rfl, starts, free⟩, whole⟩ := of_tagAt? found
    cases whole
    refine ⟨⟨c, rfl, starts⟩, ?_⟩
    have none : (c :: inside).find? isBracket = none := by
      simpa [isBracket_of_isTagStart starts] using free
    rw [List.find?_append, none]
    rfl
  · rintro ⟨⟨c, head, starts⟩, closes⟩
    cases cs with
    | nil => cases head
    | cons c' rest =>
      cases head
      rw [List.find?_cons_of_neg (by simp [isBracket_of_isTagStart starts]),
        List.find?_eq_head?_dropWhile_not] at closes
      rw [tagAt?_cons starts]
      obtain ⟨after, closes⟩ := List.head?_eq_some_iff.mp closes
      rw [closes]
      rfl

/-- How a text is scanned as markup: tag by tag and character by character, each with the
backslashes before it. -/
inductive Scan : List Char → Prop where
  /-- Backslashes at the end. -/
  | slashes (m : Nat) : Scan (List.replicate m '\\')
  /-- A tag. -/
  | tag (m : Nat) {tag after : List Char} (isTag : IsTag tag) (rest : Scan after) :
    Scan (List.replicate m '\\' ++ '[' :: (tag ++ ']' :: after))
  /-- Another character. -/
  | char (m : Nat) {c : Char} {after : List Char} (other : c ≠ '\\')
    (noTag : tagAt? (c :: after) = none) (rest : Scan after) :
    Scan (List.replicate m '\\' ++ c :: after)

/-- A text starts with backslashes, which may be none. -/
theorem exists_slashes (cs : List Char) :
    ∃ m rest, cs = List.replicate m '\\' ++ rest ∧ ∀ c ∈ rest.head?, c ≠ '\\' := by
  induction cs with
  | nil => exact ⟨0, [], rfl, nofun⟩
  | cons c cs ih =>
    by_cases slash : c = '\\'
    · obtain ⟨m, rest, rfl, stops⟩ := ih
      exact ⟨m + 1, rest, by rw [slash, List.replicate_succ, List.cons_append], stops⟩
    · refine ⟨0, c :: cs, rfl, ?_⟩
      rintro _ ⟨⟩
      exact slash

/-- Every text is scanned. -/
theorem scan (cs : List Char) : Scan cs := by
  -- by induction on the length, as a step may pass over a whole tag
  induction bound : cs.length using Nat.strongRecOn generalizing cs with
  | ind n ih =>
    obtain ⟨m, rest, rfl, stops⟩ := exists_slashes cs
    cases rest with
    | nil =>
      rw [List.append_nil]
      exact .slashes m
    | cons c after =>
      rw [List.length_append, List.length_cons] at bound
      cases found : tagAt? (c :: after) with
      | none => exact .char m (stops c rfl) found (ih after.length (by omega) after rfl)
      | some parts =>
        obtain ⟨tag, later⟩ := parts
        have shorter := length_of_tagAt? found
        obtain ⟨isTag, whole⟩ := of_tagAt? found
        rw [List.length_cons] at shorter
        rw [whole]
        exact .tag m isTag (ih later.length (by omega) later rfl)

/-- The backslashes that a text starts with are counted. -/
theorem backslashes_append (m : Nat) (rest : List Char) (stops : ∀ c ∈ rest.head?, c ≠ '\\') :
    backslashes (List.replicate m '\\' ++ rest) = m := by
  have none : rest.takeWhile (fun c => decide (c = '\\')) = [] := by
    cases rest with
    | nil => rfl
    | cons c rest => exact List.takeWhile_cons_of_neg (by simpa using stops c rfl)
  rw [backslashes, List.takeWhile_append_of_pos (by simp), none, List.append_nil,
    List.length_replicate]

/-- What follows backslashes. -/
theorem drop_slashes (m : Nat) (rest : List Char) :
    (List.replicate m '\\' ++ rest).drop m = rest :=
  List.drop_left' List.length_replicate

/-- Backslashes and the character after them. -/
theorem slashes_append_cons (m : Nat) (c : Char) (after : List Char) :
    List.replicate m '\\' ++ c :: after = (List.replicate m '\\' ++ [c]) ++ after := by
  rw [List.append_assoc, List.singleton_append]

section

variable (m steps : Nat) (plain : List Char) {tag : List Char} {c : Char} (after : List Char)

/-- A step of reading pieces. -/
theorem pieces_succ {cs : List Char} (given : cs ≠ []) :
    pieces (steps + 1) plain cs = match tagAt? (cs.drop (backslashes cs)) with
      | some (tag, after) =>
        [.plain plain.reverse, .plain (List.replicate (backslashes cs / 2) '\\')] ++
          (if backslashes cs % 2 = 1 then .plain ('[' :: tag ++ [']']) else .tag tag) ::
            pieces steps [] after
      | none => pieces steps ((cs.take (backslashes cs + 1)).reverse ++ plain)
          (cs.drop (backslashes cs + 1)) := by
  cases cs with
  | nil => exact absurd rfl given
  | cons c rest => rfl

/-- A step of making tags plain. -/
theorem escapeTags_succ {cs : List Char} (given : cs ≠ []) :
    escapeTags (steps + 1) cs = match tagAt? (cs.drop (backslashes cs)) with
      | some (tag, after) =>
        List.replicate (2 * backslashes cs + 1) '\\' ++ '[' :: tag ++
          ']' :: escapeTags steps after
      | none => cs.take (backslashes cs + 1) ++
          escapeTags steps (cs.drop (backslashes cs + 1)) := by
  cases cs with
  | nil => exact absurd rfl given
  | cons c rest => rfl

/-- A tag is plain after an odd number of backslashes. -/
theorem pieces_tag (isTag : IsTag tag) :
    pieces (steps + 1) plain (List.replicate m '\\' ++ '[' :: (tag ++ ']' :: after)) =
      [.plain plain.reverse, .plain (List.replicate (m / 2) '\\'),
        if m % 2 = 1 then .plain ('[' :: tag ++ [']']) else .tag tag] ++
          pieces steps [] after := by
  have count := backslashes_append m ('[' :: (tag ++ ']' :: after)) (by simp)
  rw [pieces_succ _ _ (by simp), count, drop_slashes, tagAt?_of_isTag isTag]
  rfl

/-- A character that opens no tag is plain. -/
theorem pieces_char (other : c ≠ '\\') (noTag : tagAt? (c :: after) = none) :
    pieces (steps + 1) plain (List.replicate m '\\' ++ c :: after) =
      pieces steps ((List.replicate m '\\' ++ [c]).reverse ++ plain) after := by
  have count := backslashes_append m (c :: after) (by simpa using other)
  have length : (List.replicate m '\\' ++ [c]).length = m + 1 := by simp
  rw [pieces_succ _ _ (by simp), count, drop_slashes, noTag]
  dsimp only
  rw [slashes_append_cons, List.take_left' length, List.drop_left' length]

/-- A tag is put after twice as many backslashes and one more. -/
theorem escapeTags_tag (isTag : IsTag tag) :
    escapeTags (steps + 1) (List.replicate m '\\' ++ '[' :: (tag ++ ']' :: after)) =
      List.replicate (2 * m + 1) '\\' ++ '[' :: (tag ++ ']' :: escapeTags steps after) := by
  have count := backslashes_append m ('[' :: (tag ++ ']' :: after)) (by simp)
  rw [escapeTags_succ _ (by simp), count, drop_slashes, tagAt?_of_isTag isTag]
  simp

/-- A character that opens no tag stays. -/
theorem escapeTags_char (other : c ≠ '\\') (noTag : tagAt? (c :: after) = none) :
    escapeTags (steps + 1) (List.replicate m '\\' ++ c :: after) =
      List.replicate m '\\' ++ c :: escapeTags steps after := by
  have count := backslashes_append m (c :: after) (by simpa using other)
  have length : (List.replicate m '\\' ++ [c]).length = m + 1 := by simp
  rw [escapeTags_succ _ (by simp), count, drop_slashes, noTag]
  dsimp only
  rw [slashes_append_cons, List.take_left' length, List.drop_left' length, ← slashes_append_cons]

/-- Backslashes at the end stay. -/
theorem escapeTags_slashes :
    escapeTags steps (List.replicate m '\\') = List.replicate m '\\' := by
  have nothing (steps : Nat) : escapeTags steps [] = [] := by cases steps <;> rfl
  have count := backslashes_append m [] nofun
  rw [List.append_nil] at count
  cases steps with
  | zero => rfl
  | succ steps =>
    cases m with
    | zero => rfl
    | succ m =>
      have short : (List.replicate (m + 1) '\\').length ≤ m + 1 + 1 := by simp
      have left : (List.replicate (m + 1) '\\').drop (m + 1) = [] := by simp
      rw [escapeTags_succ _ (by simp), count, left]
      dsimp only [tagAt?]
      rw [List.take_of_length_le short, List.drop_of_length_le short, nothing, List.append_nil]

end

/-- A text that is escaped starts as before, or with a backslash. -/
theorem head?_escapeTags (steps : Nat) (cs : List Char) :
    (escapeTags steps cs).head? = cs.head? ∨ (escapeTags steps cs).head? = some '\\' := by
  have scanned := scan cs
  cases steps with
  | zero => exact .inl rfl
  | succ steps =>
    cases scanned with
    | slashes m => rw [escapeTags_slashes]; exact .inl rfl
    | tag m isTag rest =>
      rw [escapeTags_tag _ _ _ isTag]
      exact .inr rfl
    | char m other noTag rest =>
      rw [escapeTags_char _ _ _ other noTag]
      cases m with
      | zero => exact .inl rfl
      | succ m => exact .inr rfl

/-- Backslashes are no brackets. -/
theorem find?_slashes (m : Nat) (rest : List Char) :
    (List.replicate m '\\' ++ rest).find? isBracket = rest.find? isBracket := by
  induction m with
  | zero => rfl
  | succ m ih => exact ih

/-- The first bracket of an escaped text is that of the text. -/
theorem find?_escapeTags (steps : Nat) (cs : List Char) :
    (escapeTags steps cs).find? isBracket = cs.find? isBracket := by
  have scanned := scan cs
  induction scanned generalizing steps with
  | slashes m => rw [escapeTags_slashes]
  | tag m isTag rest ih =>
    cases steps with
    | zero => rfl
    | succ steps =>
      rw [escapeTags_tag _ _ _ isTag, find?_slashes, find?_slashes]
      rfl
  | @char m c after other noTag rest ih =>
    cases steps with
    | zero => rfl
    | succ steps =>
      rw [escapeTags_char _ _ _ other noTag, find?_slashes, find?_slashes, List.find?_cons,
        List.find?_cons, ih]

/-- Something that may follow an escaped text: its first bracket, if any, opens, and it does not
start as the name of a tag. -/
structure Follows (rest : List Char) : Prop where
  /-- The first bracket does not close. -/
  bracket : rest.find? isBracket ≠ some ']'
  /-- It does not start as the name of a tag. -/
  start : ∀ c, rest.head? = some c → isTagStart c = false

/-- Nothing may follow. -/
theorem Follows.nil : Follows [] := ⟨nofun, nofun⟩

/-- An opening bracket may follow. -/
theorem Follows.bracketed (rest : List Char) : Follows ('[' :: rest) where
  bracket := by
    rw [List.find?_cons_of_pos (by decide)]
    decide
  start c head := by
    cases head
    rfl

/-- More backslashes may follow. -/
theorem Follows.slashes {rest : List Char} (follows : Follows rest) (m : Nat) :
    Follows (List.replicate m '\\' ++ rest) where
  bracket := by
    rw [find?_slashes]
    exact follows.bracket
  start c head := by
    cases m with
    | zero => exact follows.start c head
    | succ m =>
      cases head
      rfl

/-- What opens no tag opens none after it is escaped. -/
theorem tagAt?_escapeTags {c : Char} {after rest : List Char} (noTag : tagAt? (c :: after) = none)
    (follows : Follows rest) (steps : Nat) :
    tagAt? (c :: (escapeTags steps after ++ rest)) = none := by
  by_cases bracket : c = '['
  · subst bracket
    rw [← Option.not_isSome_iff_eq_none, isSome_tagAt?_iff] at noTag ⊢
    rintro ⟨⟨c, head, starts⟩, closes⟩
    rw [List.find?_append, find?_escapeTags, Option.or_eq_some_iff] at closes
    rw [List.head?_append, Option.or_eq_some_iff] at head
    have found : after.find? isBracket = some ']' := by
      rcases closes with found | ⟨-, later⟩
      · exact found
      · exact absurd later follows.bracket
    refine noTag ⟨⟨c, ?_, starts⟩, found⟩
    rcases head with head | ⟨-, head⟩
    · rcases head?_escapeTags steps after with same | slash
      · exact same.symm.trans head
      · cases slash.symm.trans head
        cases starts
    · rw [follows.start c head] at starts
      cases starts
  · exact tagAt?_of_ne bracket _

end Scanning

section Looks

/-- The name of a tag that is its own plain form, so that a closing tag closes it by the same
name. -/
structure IsLook (look : List Char) : Prop where
  /-- It is the name of a tag. -/
  isTag : IsTag look
  /-- It does not stand for a closing tag. -/
  opens : look.head? ≠ some '/'
  /-- There are no parameters. -/
  bare : look.all (· ≠ '=') = true
  /-- There are no blanks around it. -/
  trimmed : Text.trim look = look
  /-- It is its own plain form. -/
  plain : Look.normalize look = .ok look

variable {look : List Char}

/-- A closing tag has a name, too. -/
theorem IsTag.closing (isTag : IsTag look) : IsTag ('/' :: look) := by
  obtain ⟨c, inside, rfl, starts, free⟩ := isTag
  exact ⟨'/', c :: inside, rfl, rfl,
    List.forall_mem_cons.mpr ⟨isBracket_of_isTagStart starts, free⟩⟩

/-- Without an equals sign the name of a tag is all of it. -/
theorem tagName_of_bare (bare : look.all (· ≠ '=') = true) : tagName look = look :=
  List.takeWhile_eq_self_iff.mpr (List.all_eq_true.mp bare)

/-- Without an equals sign there are no parameters. -/
theorem tagParameters?_of_bare (bare : look.all (· ≠ '=') = true) :
    tagParameters? look = none := by
  have nothing : look.dropWhile (fun c => decide (c ≠ '=')) = [] :=
    List.dropWhile_eq_nil_iff.mpr (List.all_eq_true.mp bare)
  rw [tagParameters?, nothing]

/-- The tag that was opened last is the one that its name closes. -/
theorem IsLook.close_eq (isLook : IsLook look) (opened : List OpenTag) :
    close look (⟨look, none⟩ :: opened) = .ok (⟨look, none⟩, opened) := by
  obtain ⟨⟨c, inside, rfl, -, -⟩, -, -, -, plain⟩ := isLook
  have taken : takeNamed? (c :: inside) (⟨c :: inside, none⟩ :: opened) =
      some (⟨c :: inside, none⟩, opened) := if_pos rfl
  unfold close
  dsimp only
  rw [plain, Outcome.ok_bind, taken]
  exact if_neg (by simp)

end Looks

section Shown

/-- Pieces can be shown while some tags are open. -/
structure Renders (opened : List OpenTag) (found : List Piece) : Prop where
  /-- There is a text for them. -/
  text : ∃ cs, renderPieces opened found = .ok cs
  /-- The look of each can be told. -/
  looks : found.forM checkLook = .ok ()

variable {opened : List OpenTag} {look tag : List Char}

/-- Plain text is shown. -/
theorem Renders.plain {rest : List Piece} (cs : List Char) (renders : Renders opened rest) :
    Renders opened (.plain cs :: rest) := by
  obtain ⟨⟨text, shown⟩, looks⟩ := renders
  refine ⟨⟨withPictograms (withoutEscapes cs) ++ text, ?_⟩, looks⟩
  rw [renderPieces, shown]
  rfl

/-- A tag is opened. -/
theorem Renders.opening {rest : List Piece} (isLook : IsLook look)
    (renders : Renders (⟨look, none⟩ :: opened) rest) : Renders opened (.tag look :: rest) := by
  obtain ⟨⟨text, shown⟩, looks⟩ := renders
  have bare := tagParameters?_of_bare isLook.bare
  refine ⟨⟨text, ?_⟩, ?_⟩
  · rw [renderPieces, tagName_of_bare isLook.bare]
    split
    · exact absurd rfl isLook.opens
    · rw [isLook.plain, Outcome.ok_bind, bare]
      exact shown
  · have unadorned : checkLook (.tag look) = .ok () := by rw [checkLook, bare]
    exact (congrArg (· >>= fun _ => rest.forM checkLook) unadorned).trans looks

/-- The tag that was opened last is closed. -/
theorem Renders.closing {rest : List Piece} (isLook : IsLook look) (renders : Renders opened rest) :
    Renders (⟨look, none⟩ :: opened) (.tag ('/' :: look) :: rest) := by
  obtain ⟨⟨text, shown⟩, looks⟩ := renders
  have bare : ('/' :: look).all (· ≠ '=') = true := isLook.bare
  have closes : renderPieces (⟨look, none⟩ :: opened) (.tag ('/' :: look) :: rest) =
      (close (Text.trim look) (⟨look, none⟩ :: opened) >>= fun closed =>
        renderPieces closed.2 rest) := by
    rw [renderPieces, tagName_of_bare bare]
    rfl
  refine ⟨⟨text, ?_⟩, ?_⟩
  · rw [closes, isLook.trimmed, isLook.close_eq, Outcome.ok_bind]
    exact shown
  · have unadorned : checkLook (.tag ('/' :: look)) = .ok () := by
      rw [checkLook, tagParameters?_of_bare bare]
    exact (congrArg (· >>= fun _ => rest.forM checkLook) unadorned).trans looks

/-- A text can be shown as markup while some tags are open, whatever plain text has been read before
it. -/
def Shows (opened : List OpenTag) (cs : List Char) : Prop :=
  ∀ steps plain, cs.length < steps → Renders opened (pieces steps plain cs)

variable {c : Char} {cs after rest : List Char}

/-- Backslashes can be shown. -/
theorem Shows.slashes (opened : List OpenTag) (m : Nat) : Shows opened (List.replicate m '\\') := by
  have nothing (plain : List Char) : Renders opened [.plain plain] :=
    Renders.plain plain ⟨⟨[], rfl⟩, rfl⟩
  have done (steps : Nat) (plain : List Char) : Renders opened (pieces steps plain []) := by
    cases steps with
    | zero => exact nothing _
    | succ steps => exact nothing _
  intro steps plain enough
  obtain ⟨steps, rfl⟩ := Nat.exists_eq_add_one_of_ne_zero (Nat.ne_zero_of_lt enough)
  cases m with
  | zero => exact done _ plain
  | succ m =>
    have count := backslashes_append (m + 1) [] nofun
    rw [List.append_nil] at count
    have left : (List.replicate (m + 1) '\\').drop (m + 1) = [] := by simp
    have short : (List.replicate (m + 1) '\\').length ≤ m + 1 + 1 := by simp
    rw [pieces_succ _ _ (by simp), count, left]
    dsimp only [tagAt?]
    rw [List.drop_of_length_le short]
    exact done steps _

/-- A character that opens no tag can be shown, and so can backslashes before it. -/
theorem Shows.char (m : Nat) (other : c ≠ '\\') (noTag : tagAt? (c :: after) = none)
    (shows : Shows opened after) : Shows opened (List.replicate m '\\' ++ c :: after) := by
  intro steps plain enough
  obtain ⟨steps, rfl⟩ := Nat.exists_eq_add_one_of_ne_zero (Nat.ne_zero_of_lt enough)
  rw [List.length_append, List.length_cons] at enough
  rw [pieces_char _ _ _ _ other noTag]
  exact shows steps _ (by omega)

/-- Characters that belong to no markup can be shown. -/
theorem Shows.append (shows : Shows opened after) (lead : List Char)
    (free : ∀ c ∈ lead, c ≠ '\\' ∧ c ≠ '[') : Shows opened (lead ++ after) := by
  induction lead with
  | nil => exact shows
  | cons c lead ih =>
    obtain ⟨⟨slash, bracket⟩, free⟩ := List.forall_mem_cons.mp free
    exact (ih free).char 0 slash (tagAt?_of_ne bracket _)

/-- A tag can be shown if it can be as plain text after an odd number of backslashes, and as a tag
after any other. -/
theorem Shows.bracketed (m : Nat) (isTag : IsTag tag)
    (renders : ∀ steps, after.length < steps → Renders opened
      ((if m % 2 = 1 then .plain ('[' :: tag ++ [']']) else .tag tag) :: pieces steps [] after)) :
    Shows opened (List.replicate m '\\' ++ '[' :: (tag ++ ']' :: after)) := by
  intro steps plain enough
  obtain ⟨steps, rfl⟩ := Nat.exists_eq_add_one_of_ne_zero (Nat.ne_zero_of_lt enough)
  simp only [List.length_append, List.length_cons] at enough
  rw [pieces_tag _ _ _ _ isTag]
  exact ((renders steps (by omega)).plain _).plain _

/-- A tag is plain text after an odd number of backslashes. -/
theorem Shows.plainTag {m : Nat} (odd : m % 2 = 1) (isTag : IsTag tag)
    (shows : Shows opened after) :
    Shows opened (List.replicate m '\\' ++ '[' :: (tag ++ ']' :: after)) := by
  refine .bracketed m isTag fun steps enough => ?_
  rw [if_pos odd]
  exact (shows steps [] enough).plain _

/-- A tag is opened before what can be shown while it is open. -/
theorem Shows.opening (isLook : IsLook look) (shows : Shows (⟨look, none⟩ :: opened) after) :
    Shows opened ('[' :: (look ++ ']' :: after)) :=
  .bracketed 0 isLook.isTag fun steps enough => (shows steps [] enough).opening isLook

/-- The tag that was opened last is closed, unless backslashes make the closing one plain. -/
theorem Shows.closing (m : Nat) (isLook : IsLook look)
    (stays : m % 2 = 1 → Shows (⟨look, none⟩ :: opened) after) (shows : Shows opened after) :
    Shows (⟨look, none⟩ :: opened)
      (List.replicate m '\\' ++ '[' :: ('/' :: look ++ ']' :: after)) := by
  refine .bracketed m isLook.isTag.closing fun steps enough => ?_
  split
  · next odd => exact (stays odd steps [] enough).plain _
  · exact (shows steps [] enough).closing isLook

/-- An escaped text can be shown before what can be shown after any number of backslashes. -/
theorem Shows.escapeTags (cs : List Char) (follows : Follows rest)
    (shows : ∀ m, Shows opened (List.replicate m '\\' ++ rest)) {steps : Nat}
    (enough : cs.length < steps) : Shows opened (Console.escapeTags steps cs ++ rest) := by
  have scanned := scan cs
  induction scanned generalizing steps with
  | slashes m =>
    rw [escapeTags_slashes]
    exact shows m
  | @tag m tag after isTag _ ih =>
    obtain ⟨steps, rfl⟩ := Nat.exists_eq_add_one_of_ne_zero (Nat.ne_zero_of_lt enough)
    simp only [List.length_append, List.length_cons] at enough
    have odd : (2 * m + 1) % 2 = 1 := by omega
    rw [escapeTags_tag _ _ _ isTag]
    simp only [List.append_assoc, List.cons_append]
    exact .plainTag odd isTag (ih (by omega))
  | @char m c after other noTag _ ih =>
    obtain ⟨steps, rfl⟩ := Nat.exists_eq_add_one_of_ne_zero (Nat.ne_zero_of_lt enough)
    simp only [List.length_append, List.length_cons] at enough
    rw [escapeTags_char _ _ _ other noTag, List.append_assoc, List.cons_append]
    exact .char m other (tagAt?_escapeTags noTag follows steps) (ih (by omega))

/-- A text that is escaped has its tags plain, and one backslash more at its end, if any. -/
theorem exists_escape_eq (cs : List Char) :
    ∃ j, escape cs = escapeTags (cs.length + 1) cs ++ List.replicate j '\\' := by
  unfold escape
  dsimp only
  split
  · exact ⟨1, rfl⟩
  · split
    · exact ⟨0, (List.append_nil _).symm⟩
    · exact ⟨1, rfl⟩
  · exact ⟨0, (List.append_nil _).symm⟩

/-- Any text can be shown once it is escaped, before what can be shown after backslashes. -/
theorem Shows.escape (cs : List Char) (follows : Follows rest)
    (shows : ∀ m, Shows opened (List.replicate m '\\' ++ rest)) :
    Shows opened (Console.escape cs ++ rest) := by
  obtain ⟨j, escaped⟩ := exists_escape_eq cs
  rw [escaped, List.append_assoc]
  refine .escapeTags cs (follows.slashes j) (fun m => ?_) (Nat.lt_succ_self _)
  rw [← List.append_assoc, List.replicate_append_replicate]
  exact shows (m + j)

end Shown

section Lines

open Number (digits areDigits_digits digits_ne_nil)

variable {opened : List OpenTag} {after : List Char}

end Lines

end Stencil.Console
