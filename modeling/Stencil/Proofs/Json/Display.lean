import Stencil.Json.Pretty
import Stencil.Proofs.Binary64.Text
import Stencil.Proofs.Json.Grammar
import Stencil.Proofs.Json.RoundTrip
import Stencil.Proofs.Json.Rounded

/-!
# Reading what was written for the eye

A value that is written over several lines is read back from them: the spaces of the lines are
skipped, strings are read back whether their characters are escaped or not, and a binary number is
read as the decimal number that its text spells.
-/

namespace Stencil.Json

open Value (AllScalars AllItems AllMembers mapScalars mapItems mapMembers)

/-- Strings that are written for the eye are read back. -/
theorem isSpelling_visibleChar : IsSpelling visibleChar where
  goesOn opening steps c next rest := by
    unfold visibleChar
    split
    · next visible =>
      have noQuote : c ≠ '"' := by
        rintro rfl
        exact absurd visible (by decide)
      have noBackslash : c ≠ '\\' := by
        rintro rfl
        exact absurd visible (by decide)
      exact stringTail_plain opening steps noQuote noBackslash (by omega) (next :: rest)
    · exact stringTail_escapeChar opening steps c next rest
  nonempty c := by
    unfold visibleChar
    split
    · exact List.cons_ne_nil _ _
    · exact escapeChar_ne_nil c

/-- A line end and its indentation are spaces. -/
theorem areSpaces_newLine (level : Nat) : AreSpaces (newLine level) := by
  intro c among
  rcases List.mem_cons.mp among with rfl | among
  · simp
  · rw [(List.mem_replicate.mp among).2]
    simp

/-- A text is read as a value, and no more than it is, where nothing follows that would go on with a
number. -/
structure ReadsAs (text : List Char) (v : Value) : Prop where
  /-- The text starts as one of a value. -/
  starts : Starts text
  /-- The text is read with as many steps as it has characters. -/
  read : ∀ {rest}, EndsNumber rest → ∀ {steps}, text.length ≤ steps →
    readValue .exact steps (text ++ rest) = .ok (v, rest)

namespace ReadsAs

variable {text : List Char} {v : Value}

/-- A text is read as a value if one step more than none is enough. -/
theorem of_succ (starts : Starts text)
    (read : ∀ {rest}, EndsNumber rest → ∀ steps,
      readValue .exact (steps + 1) (text ++ rest) = .ok (v, rest)) : ReadsAs text v where
  starts := starts
  read ends steps enough := by
    have positive := starts.length_pos
    obtain ⟨fewer, rfl⟩ : ∃ fewer, steps = fewer + 1 := ⟨steps - 1, by omega⟩
    exact read ends fewer

/-- Null is read from its word. -/
theorem null : ReadsAs "null".toList .null :=
  of_succ ⟨'n', _, rfl, .inr (by simp)⟩ fun _ _ => rfl

/-- A truth value is read from its word. -/
theorem bool (b : Bool) : ReadsAs (if b then "true".toList else "false".toList) (.bool b) := by
  cases b with
  | true => exact of_succ ⟨'t', _, rfl, .inr (by simp)⟩ fun _ _ => rfl
  | false => exact of_succ ⟨'f', _, rfl, .inr (by simp)⟩ fun _ _ => rfl

/-- The undefined number is read from its word. -/
theorem undefined : ReadsAs (binaryChars .undefined) (.binary .undefined) :=
  of_succ ⟨'N', _, rfl, .inr (by simp)⟩ fun _ _ => rfl

/-- An infinity is read from its word. -/
theorem infinite (negative : Bool) :
    ReadsAs (binaryChars (.infinite negative)) (.binary (.infinite negative)) := by
  cases negative with
  | true => exact of_succ ⟨'-', _, rfl, .inr (by simp)⟩ fun _ _ => rfl
  | false => exact of_succ ⟨'I', _, rfl, .inr (by simp)⟩ fun _ _ => rfl

/-- An integer is read from its digits. -/
theorem int {n : Int} {text : List Char} (written : intChars n = .ok text) :
    ReadsAs text (.int n) := by
  refine of_succ ?_ fun ends steps => readValue_intText written ends steps
  obtain ⟨-, rfl⟩ := of_intChars_eq_ok written
  rw [intText_eq]
  exact starts_number _ _

/-- A string is read from what is written for the eye. -/
theorem visible (s : String) : ReadsAs (visibleString s) (.text s) := by
  refine of_succ ⟨'"', _, rfl, .inr (by simp)⟩ fun {rest} _ steps => ?_
  have split : visibleString s ++ rest =
      '"' :: (s.toList.flatMap visibleChar ++ '"' :: rest) := by simp [visibleString]
  rw [split, readValue, isSpelling_visibleChar.readString_flatMap]
  rfl

end ReadsAs

/-- A number as its text spells it: a binary number is spelled as a decimal one. -/
def spelled : Value → Value
  | .binary (.finite negative significand exponent) =>
    match Decimal.read? (Binary64.chars (.finite negative significand exponent)) with
    | some d => .decimal d
    | none => .null
  | v => v

/-- A finite binary number is read as the decimal number that its text spells. -/
theorem readsAs_binary {significand : Nat} {exponent : Int}
    (formed : Binary64.IsFormed significand exponent) (negative : Bool) :
    ReadsAs (Binary64.chars (.finite negative significand exponent))
      (spelled (.binary (.finite negative significand exponent))) := by
  obtain ⟨coefficient, power, read, -⟩ := Binary64.exists_read?_chars formed negative
  obtain ⟨coefficient', power', spells, -⟩ := Binary64.exists_spells formed
  obtain ⟨whole, fraction, scale, parts, text, notWhole⟩ := spells.parts
  have chars : Binary64.chars (.finite negative significand exponent) =
      Decimal.signText negative ++ (whole ++ (fraction ++ scale)) := by
    rw [← text]
    rfl
  have number : IsNumber (Binary64.chars (.finite negative significand exponent)) :=
    ⟨negative, whole, fraction, scale, parts, chars⟩
  refine .of_succ number.starts fun {rest} ends steps => ?_
  have value : numberOf .exact negative whole fraction scale =
      .ok (.decimal (.finite negative coefficient power)) := by
    unfold numberOf
    rw [notWhole]
    dsimp only
    rw [signed_eq, List.append_assoc, ← chars, read]
    rfl
  have plain := parts.readPlain_append .exact negative ends
  obtain ⟨c, tail, start, noMark⟩ := parts.exists_start negative rest
  rw [spelled, read, chars]
  rw [start] at plain ⊢
  rw [readValue_plain noMark, plain, value]
  rfl

/-- A text is read as a member: a name, a colon, and a value. -/
def ReadsAsMember (text : List Char) (member : Key × Value) : Prop :=
  ∃ name part, member.1 = .text name ∧
    text = visibleString name ++ Layout.spaced.colon ++ part ∧ ReadsAs part member.2

section Block

variable {gap final : List Char} {parts : List (List Char)}

/-- After the first part, a comma and spaces the others follow. -/
theorem joined_gap_append (gap part next : List Char) (others : List (List Char))
    (rest : List Char) :
    joined (',' :: gap) (part :: next :: others) ++ rest =
      part ++ ',' :: (gap ++ (joined (',' :: gap) (next :: others) ++ rest)) := by
  rw [joined]
  simp

/-- The first part and the others are shorter than all of them. -/
theorem length_joined_gap (gap part next : List Char) (others : List (List Char)) :
    part.length + (joined (',' :: gap) (next :: others)).length <
      (joined (',' :: gap) (part :: next :: others)).length := by
  rw [joined]
  simp only [List.length_append, List.length_cons]
  omega

/-- Items on lines of their own are read up to the bracket after them. -/
theorem readItems_joined (spaces : AreSpaces gap) (spaces' : AreSpaces final)
    {items : List Value} (reads : List.Forall₂ ReadsAs parts items) (nonempty : parts ≠ [])
    (rest : List Char) {steps : Nat} (enough : (joined (',' :: gap) parts).length < steps) :
    readItems .exact steps (joined (',' :: gap) parts ++ (final ++ ']' :: rest)) =
      .ok (items, rest) := by
  have closes : Follows (']' :: rest) := .cons (by simp) rest
  induction reads generalizing steps with
  | nil => exact absurd rfl nonempty
  | @cons part item others more first later ih =>
    obtain ⟨fewer, rfl⟩ : ∃ fewer, steps = fewer + 1 := ⟨steps - 1, by omega⟩
    cases later with
    | nil =>
      have read := first.read (spaces'.endsNumber closes) (Nat.le_of_lt_succ enough)
      refine readItems_last_of_skip read ?_
      rw [spaces'.skip_append, closes.skip_eq]
    | @cons next _ others _ second later =>
      -- the other items are shorter by the item at hand and a comma, which pay for this step
      have shorter := length_joined_gap gap part next others
      have comma (tail : List Char) : Follows (',' :: tail) := .cons (by simp) tail
      have fits : part.length ≤ fewer := by omega
      have read (tail : List Char) := first.read (comma tail).endsNumber fits
      have starts := second.starts.joined (',' :: gap) others
      rw [joined_gap_append]
      refine readItems_more (read _) ?_
      rw [spaces.skip_append, (starts.append _).skip_eq]
      exact ih (List.cons_ne_nil _ _) (by omega)

/-- A member starts with the quote of its name. -/
theorem ReadsAsMember.starts {text : List Char} {member : Key × Value}
    (reads : ReadsAsMember text member) : Starts text := by
  obtain ⟨name, part, -, rfl, -⟩ := reads
  exact ⟨'"', _, rfl, .inr (by simp)⟩

/-- Members on lines of their own are read up to the brace after them. -/
theorem readMembers_joined (spaces : AreSpaces gap) (spaces' : AreSpaces final)
    {members : List (Key × Value)} (reads : List.Forall₂ ReadsAsMember parts members)
    (nonempty : parts ≠ []) (rest : List Char) {steps : Nat}
    (enough : (joined (',' :: gap) parts).length < steps) :
    readMembers .exact steps (joined (',' :: gap) parts ++ (final ++ '\x7d' :: rest)) =
      .ok (members, rest) := by
  have closes : Follows ('\x7d' :: rest) := .cons (by simp) rest
  induction reads generalizing steps with
  | nil => exact absurd rfl nonempty
  | @cons text member others more first later ih =>
    obtain ⟨fewer, rfl⟩ : ∃ fewer, steps = fewer + 1 := ⟨steps - 1, by omega⟩
    obtain ⟨key, item⟩ := member
    obtain ⟨name, part, rfl, rfl, reads⟩ := first
    have spelling (tail : List Char) : visibleString name ++ Layout.spaced.colon ++ part ++ tail =
        '"' :: (name.toList.flatMap visibleChar ++ '"' ::
          (':' :: ' ' :: (part ++ tail))) := by
      simp [visibleString, Layout.colon]
    have named (tail : List Char) := isSpelling_visibleChar.readString_flatMap name tail
    have valueStarts (tail : List Char) : skip (' ' :: (part ++ tail)) = part ++ tail :=
      (reads.starts.append tail).skip_eq
    have shorterValue : part.length <
        (visibleString name ++ Layout.spaced.colon ++ part).length := by
      simp only [visibleString, List.length_append, List.length_cons]
      omega
    cases later with
    | nil =>
      have whole : (visibleString name ++ Layout.spaced.colon ++ part).length < fewer + 1 := enough
      have fits : part.length ≤ fewer := by omega
      have read := reads.read (spaces'.endsNumber closes) fits
      rw [joined, spelling]
      refine readMembers_last_of_skip (named _) (skip_mark (by simp) _)
        (by rw [valueStarts]; exact read) ?_
      rw [spaces'.skip_append, closes.skip_eq]
    | @cons next _ others _ second later =>
      have shorter := length_joined_gap gap (visibleString name ++ Layout.spaced.colon ++ part)
        next others
      have comma (tail : List Char) : Follows (',' :: tail) := .cons (by simp) tail
      have fits : part.length ≤ fewer := by omega
      have read (tail : List Char) := reads.read (comma tail).endsNumber fits
      have starts := second.starts.joined (',' :: gap) others
      rw [joined_gap_append, spelling]
      refine readMembers_more_of_skip (named _) (skip_mark (by simp) _)
        (by rw [valueStarts]; exact read _) ?_
      rw [spaces.skip_append, (starts.append _).skip_eq]
      exact ih (List.cons_ne_nil _ _) (by omega)

/-- Parts in a block are the ones joined, with spaces around them. -/
theorem block_append (opening closing : Char) (level : Nat) (nonempty : parts ≠ [])
    (rest : List Char) :
    block opening closing level parts ++ rest =
      opening :: (newLine (level + 1) ++
        (joined (',' :: newLine (level + 1)) parts ++ (newLine level ++ closing :: rest))) := by
  have notEmpty : ¬parts.isEmpty = true := by simpa using nonempty
  rw [block, if_neg notEmpty]
  simp

/-- A block is longer than its parts. -/
theorem length_lt_length_block (opening closing : Char) (level : Nat) (nonempty : parts ≠ []) :
    (joined (',' :: newLine (level + 1)) parts).length + 2 ≤
      (block opening closing level parts).length := by
  have notEmpty : ¬parts.isEmpty = true := by simpa using nonempty
  rw [block, if_neg notEmpty]
  simp only [List.length_append, List.length_cons]
  omega

/-- A list on several lines is read when its items are. -/
theorem readsAs_list (level : Nat) {items : List Value}
    (reads : List.Forall₂ ReadsAs parts items) :
    ReadsAs (block '[' ']' level parts) (.list items) := by
  cases reads with
  | nil => exact .of_succ ⟨'[', _, rfl, .inr (by simp)⟩ fun _ _ => rfl
  | @cons part item others more first later =>
    have nonempty : part :: others ≠ [] := List.cons_ne_nil _ _
    have reads : List.Forall₂ ReadsAs (part :: others) (item :: more) := .cons first later
    refine ⟨⟨'[', _, rfl, .inr (by simp)⟩, fun {rest} ends {steps} enough => ?_⟩
    have longer := length_lt_length_block '[' ']' level nonempty
    obtain ⟨fewer, rfl⟩ : ∃ fewer, steps = fewer + 1 := ⟨steps - 1, by omega⟩
    have starts := (first.starts.joined (',' :: newLine (level + 1)) others).append
      (newLine level ++ ']' :: rest)
    have skipped := (areSpaces_newLine (level + 1)).skip_append
      (joined (',' :: newLine (level + 1)) (part :: others) ++ (newLine level ++ ']' :: rest))
    rw [starts.skip_eq] at skipped
    rw [block_append '[' ']' level nonempty]
    refine readValue_list_of_skip (by rwa [skipped]) ?_
    rw [skipped]
    exact readItems_joined (areSpaces_newLine _) (areSpaces_newLine _) reads nonempty rest
      (by omega)

/-- An object on several lines is read when its members are. -/
theorem readsAs_object (level : Nat) {members : List (Key × Value)}
    (distinct : Fields.AreDistinct members) (reads : List.Forall₂ ReadsAsMember parts members) :
    ReadsAs (block '\x7b' '\x7d' level parts) (.object members) := by
  cases reads with
  | nil => exact .of_succ ⟨'\x7b', _, rfl, .inr (by simp)⟩ fun _ _ => rfl
  | @cons part member others more first later =>
    have nonempty : part :: others ≠ [] := List.cons_ne_nil _ _
    have reads : List.Forall₂ ReadsAsMember (part :: others) (member :: more) :=
      .cons first later
    refine ⟨⟨'\x7b', _, rfl, .inr (by simp)⟩, fun {rest} ends {steps} enough => ?_⟩
    have longer := length_lt_length_block '\x7b' '\x7d' level nonempty
    obtain ⟨fewer, rfl⟩ : ∃ fewer, steps = fewer + 1 := ⟨steps - 1, by omega⟩
    have starts := (first.starts.joined (',' :: newLine (level + 1)) others).append
      (newLine level ++ '\x7d' :: rest)
    have skipped := (areSpaces_newLine (level + 1)).skip_append
      (joined (',' :: newLine (level + 1)) (part :: others) ++ (newLine level ++ '\x7d' :: rest))
    rw [starts.skip_eq] at skipped
    have fits : (joined (',' :: newLine (level + 1)) (part :: others)).length < fewer := by omega
    have inside := readMembers_joined (areSpaces_newLine (level + 1)) (areSpaces_newLine level)
      reads nonempty rest fits
    rw [block_append '\x7b' '\x7d' level nonempty, ← Fields.ofList_of_areDistinct distinct]
    refine readValue_object_of_skip (by rwa [skipped]) ?_
    rw [skipped]
    exact inside

end Block

/-- A scalar as it is read back from a display: a fraction is rounded, and read as the decimal
number that the text of the binary number spells. -/
def displayed (v : Value) : Value := spelled (rounded v)

/-- A finite decimal number is written for the eye as its nearest binary number. -/
theorem exists_pretty_decimal {d : Decimal} (admitted : d.IsAdmitted) (level : Nat) :
    ∃ text, prettyChars level (rounded (.decimal d)) = .ok text ∧
      ReadsAs text (displayed (.decimal d)) := by
  cases d with
  | finite negative coefficient power =>
    unfold displayed rounded
    dsimp only
    cases nearest : Binary64.ofScientific negative ⟨coefficient, power⟩ with
    | finite negative' significand exponent =>
      obtain ⟨-, formed, -⟩ := Binary64.of_ofScientific nearest
      exact ⟨_, rfl, readsAs_binary formed negative'⟩
    | infinite negative' => exact ⟨_, rfl, .infinite negative'⟩
    | undefined => exact ⟨_, rfl, .undefined⟩
  | _ => cases admitted

mutual

/-- A value that was read with binary fractions can be written for the eye. The text is read as the
value, with the decimal numbers that the texts of its fractions spell. -/
theorem exists_pretty (v : Value) (readable : AllScalars IsReadable v) (level : Nat) :
    ∃ text, prettyChars level (mapScalars rounded v) = .ok text ∧
      ReadsAs text (mapScalars displayed v) := by
  cases v with
  | null => exact ⟨_, rfl, .null⟩
  | bool b => exact ⟨_, by cases b <;> rfl, .bool b⟩
  | int n =>
    have written := intChars_of_short readable.2
    exact ⟨_, written, .int written⟩
  | decimal d => exact exists_pretty_decimal readable.1 level
  | text s => exact ⟨_, rfl, .visible s⟩
  | binary x =>
    cases x with
    | finite => cases readable.1
    | infinite negative => exact ⟨_, rfl, .infinite negative⟩
    | undefined => exact ⟨_, rfl, .undefined⟩
  | list items =>
    obtain ⟨parts, written, reads⟩ := exists_prettyItems items readable (level + 1)
    refine ⟨_, ?_, readsAs_list level reads⟩
    rw [mapScalars, prettyChars, written]
    rfl
  | object members =>
    obtain ⟨parts, written, reads⟩ := exists_prettyMembers members readable.2 (level + 1)
    have distinct : Fields.AreDistinct (mapMembers displayed members) := by
      rw [Fields.AreDistinct, Value.keys_mapMembers]
      exact readable.1
    refine ⟨_, ?_, readsAs_object level distinct reads⟩
    rw [mapScalars, prettyChars, written]
    rfl
  | _ => cases readable.1
  termination_by structural v

/-- The same of items. -/
theorem exists_prettyItems (items : List Value) (readable : AllItems IsReadable items)
    (level : Nat) :
    ∃ parts, prettyItems level (mapItems rounded items) = .ok parts ∧
      List.Forall₂ ReadsAs parts (mapItems displayed items) := by
  cases items with
  | nil => exact ⟨[], rfl, .nil⟩
  | cons item rest =>
    obtain ⟨text, written, reads⟩ := exists_pretty item readable.1 level
    obtain ⟨others, more, readsMore⟩ := exists_prettyItems rest readable.2 level
    refine ⟨text :: others, ?_, .cons reads readsMore⟩
    rw [mapItems, prettyItems, written, more]
    rfl
  termination_by structural items

/-- The same of members. -/
theorem exists_prettyMembers (members : List (Key × Value))
    (readable : AllMembers IsReadable members) (level : Nat) :
    ∃ parts, prettyMembers level (mapMembers rounded members) = .ok parts ∧
      List.Forall₂ ReadsAsMember parts (mapMembers displayed members) := by
  cases members with
  | nil => exact ⟨[], rfl, .nil⟩
  | cons member rest =>
    obtain ⟨key, item⟩ := member
    obtain ⟨⟨name, rfl⟩, readable, readableMore⟩ := readable
    obtain ⟨text, written, reads⟩ := exists_pretty item readable level
    obtain ⟨others, more, readsMore⟩ := exists_prettyMembers rest readableMore level
    refine ⟨_ :: others, ?_, .cons ⟨name, text, rfl, rfl, reads⟩ readsMore⟩
    rw [mapMembers, prettyMembers, keyText_text, written, more]
    rfl
  termination_by structural members

end

/-- What was written for the eye, with a line end behind it, is read back. -/
theorem exists_pretty_read {v : Value} (readable : AllScalars IsReadable v) :
    ∃ text, pretty (mapScalars rounded v) = .ok text ∧
      read (text ++ "\n") = .ok (mapScalars displayed v) := by
  obtain ⟨chars, written, reads⟩ := exists_pretty v readable 0
  refine ⟨String.ofList chars, by rw [pretty, written]; rfl, ?_⟩
  have ends : EndsNumber ['\n'] := by
    intro c among
    cases among
    decide
  have enough : chars.length ≤ 2 * (chars ++ ['\n']).length + 1 := by
    rw [List.length_append]
    omega
  have value := reads.read ends enough
  have noSkip := (reads.starts.append ['\n']).skip_eq
  obtain ⟨c, rest, split, isStart⟩ := reads.starts.append ['\n']
  have noMark : c ≠ '\uFEFF' := isStart.ne (by simp [IsStart])
  have text : (String.ofList chars ++ "\n").toList = chars ++ ['\n'] := by simp
  rw [read, text, readChars]
  · rw [noSkip, value]
    rfl
  · rintro rest same
    rw [split] at same
    exact noMark (List.cons.inj same).1

end Stencil.Json
