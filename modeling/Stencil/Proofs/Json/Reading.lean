import Stencil.Proofs.Json.Number
import Stencil.Proofs.Json.String

/-!
# The steps of reading JSON text

How the text of a value starts, what is skipped around it, and one step for each form: a list or an
object is opened, an item or a member ends the list or object or leads to more of them.
-/

namespace Stencil.Json

/-- What starts the text of a value. -/
def IsStart (c : Char) : Prop :=
  c.isDigit ∨ c ∈ ['-', 'n', 't', 'f', 'N', 'I', '"', '[', '\x7b']

/-- A text that starts as a value does. -/
def Starts (text : List Char) : Prop := ∃ c rest, text = c :: rest ∧ IsStart c

/-- A value starts with nothing else. -/
theorem IsStart.ne {c d : Char} (h : IsStart c) (other : ¬IsStart d) : c ≠ d := by
  rintro rfl
  exact other h

/-- A value does not start with a space. -/
theorem IsStart.isSpace_eq_false {c : Char} (h : IsStart c) : isSpace c = false := by
  have h1 : c ≠ ' ' := h.ne (by simp [IsStart])
  have h2 : c ≠ '\t' := h.ne (by simp [IsStart])
  have h3 : c ≠ '\n' := h.ne (by simp [IsStart])
  have h4 : c ≠ '\r' := h.ne (by simp [IsStart])
  simp [isSpace, h1, h2, h3, h4]

namespace Starts

variable {text : List Char}

/-- What follows does not change the start. -/
theorem append (starts : Starts text) (more : List Char) : Starts (text ++ more) := by
  obtain ⟨c, rest, rfl, isStart⟩ := starts
  exact ⟨c, rest ++ more, rfl, isStart⟩

/-- Nothing is skipped in front of a value. -/
theorem skip_eq (starts : Starts text) : skip text = text := by
  obtain ⟨c, rest, rfl, isStart⟩ := starts
  rw [skip, List.dropWhile_cons_of_neg]
  simp [isStart.isSpace_eq_false]

/-- A value takes at least one character. -/
theorem length_pos (starts : Starts text) : 0 < text.length := by
  obtain ⟨c, rest, rfl, -⟩ := starts
  exact Nat.succ_pos _

/-- Joined parts start as the first one does. -/
theorem joined {first : List Char} (starts : Starts first) (separator : List Char)
    (others : List (List Char)) : Starts (joined separator (first :: others)) := by
  cases others with
  | nil => exact starts
  | cons next rest =>
    rw [Json.joined, List.append_assoc]
    exact starts.append _

end Starts

/-- The space after a comma or a colon. -/
def Layout.gap : Layout → List Char
  | .spaced => [' ']
  | .compact => []

/-- A comma and a colon come with the same space. -/
theorem Layout.separators (layout : Layout) :
    layout.comma = ',' :: layout.gap ∧ layout.colon = ':' :: layout.gap := by
  cases layout <;> exact ⟨rfl, rfl⟩

/-- The space of a layout is skipped. -/
theorem skip_gap (layout : Layout) (text : List Char) : skip (layout.gap ++ text) = skip text := by
  cases layout <;> rfl

/-- What separates and closes is not skipped. -/
theorem skip_mark {c : Char} (h : c ∈ [',', ':', ']', '\x7d']) (rest : List Char) :
    skip (c :: rest) = c :: rest := by
  simp only [List.mem_cons, List.not_mem_nil, or_false] at h
  rcases h with rfl | rfl | rfl | rfl <;> rfl

section Steps

variable {fractions : Fractions} {steps : Nat} {text rest : List Char}

/-- A text that starts no string, list or object is read as a word or a number. -/
theorem readValue_plain {c : Char} (plain : c ∉ ['"', '[', '\x7b']) :
    readValue fractions (steps + 1) (c :: rest) = readPlain fractions (c :: rest) := by
  simp only [List.mem_cons, List.not_mem_nil, or_false, not_or] at plain
  obtain ⟨noQuote, noBracket, noBrace⟩ := plain
  rw [readValue] <;> rintro rest same
  · exact noQuote (List.cons.inj same).1
  · exact noBracket (List.cons.inj same).1
  · exact noBrace (List.cons.inj same).1

/-- The items of a list are read after its bracket and any space. -/
theorem readValue_list_of_skip {items : List Value} (starts : Starts (skip text))
    (read : readItems fractions steps (skip text) = .ok (items, rest)) :
    readValue fractions (steps + 1) ('[' :: text) = .ok (.list items, rest) := by
  obtain ⟨c, tail, split, isStart⟩ := starts
  have noBracket : c ≠ ']' := isStart.ne (by simp [IsStart])
  rw [readValue]
  rw [split] at read ⊢
  split
  · next closing => exact absurd (List.cons.inj closing).1 noBracket
  · rw [read]
    rfl

/-- The items of a list are read after its bracket. -/
theorem readValue_list {items : List Value} (starts : Starts text)
    (read : readItems fractions steps text = .ok (items, rest)) :
    readValue fractions (steps + 1) ('[' :: text) = .ok (.list items, rest) := by
  have unskipped := starts.skip_eq
  exact readValue_list_of_skip (by rwa [unskipped]) (by rwa [unskipped])

/-- The members of an object are read after its brace and any space. -/
theorem readValue_object_of_skip {members : List (Key × Value)} (starts : Starts (skip text))
    (read : readMembers fractions steps (skip text) = .ok (members, rest)) :
    readValue fractions (steps + 1) ('\x7b' :: text) =
      .ok (.object (Fields.ofList members), rest) := by
  obtain ⟨c, tail, split, isStart⟩ := starts
  have noBrace : c ≠ '\x7d' := isStart.ne (by simp [IsStart])
  rw [readValue]
  rw [split] at read ⊢
  split
  · next closing => exact absurd (List.cons.inj closing).1 noBrace
  · rw [read]
    rfl

/-- The members of an object are read after its brace. -/
theorem readValue_object {members : List (Key × Value)} (starts : Starts text)
    (read : readMembers fractions steps text = .ok (members, rest)) :
    readValue fractions (steps + 1) ('\x7b' :: text) =
      .ok (.object (Fields.ofList members), rest) := by
  have unskipped := starts.skip_eq
  exact readValue_object_of_skip (by rwa [unskipped]) (by rwa [unskipped])

section Items

variable {item : Value} {items : List Value} {after more : List Char}

/-- The bracket after an item and any space ends the items. -/
theorem readItems_last_of_skip (read : readValue fractions steps text = .ok (item, after))
    (closes : skip after = ']' :: rest) :
    readItems fractions (steps + 1) text = .ok ([item], rest) := by
  rw [readItems, read]
  simp only [closes]

/-- The bracket after an item ends the items. -/
theorem readItems_last (read : readValue fractions steps text = .ok (item, ']' :: rest)) :
    readItems fractions (steps + 1) text = .ok ([item], rest) :=
  readItems_last_of_skip read (skip_mark (by simp) rest)

/-- The comma after an item leads to more items. -/
theorem readItems_more (read : readValue fractions steps text = .ok (item, ',' :: more))
    (others : readItems fractions steps (skip more) = .ok (items, rest)) :
    readItems fractions (steps + 1) text = .ok (item :: items, rest) := by
  have comma : skip (',' :: more) = ',' :: more := skip_mark (by simp) more
  rw [readItems, read]
  simp only [comma, others]
  rfl

end Items

/-- The text of a member: its name, a colon, and its value. -/
def memberText (layout : Layout) (name : String) (part : List Char) : List Char :=
  stringChars name ++ layout.colon ++ part

/-- A member is the quote of its name, the rest of the name, a colon, and the value. -/
theorem memberText_append (layout : Layout) (name : String) (part : List Char) :
    memberText layout name part ++ text =
      '"' :: (name.toList.flatMap escapeChar ++ '"' :: (layout.colon ++ (part ++ text))) := by
  simp [memberText, stringChars]

/-- A colon is not skipped. -/
theorem skip_colon (layout : Layout) :
    skip (layout.colon ++ text) = ':' :: (layout.gap ++ text) := by
  rw [layout.separators.2]
  exact skip_mark (by simp) _

/-- The space in front of a value is skipped, and nothing more. -/
theorem skip_value (layout : Layout) {part : List Char} (starts : Starts part) :
    skip (layout.gap ++ (part ++ text)) = part ++ text := by
  rw [skip_gap, (starts.append text).skip_eq]

section Members

variable {name : String} {item : Value} {after more tail body : List Char}
  {members : List (Key × Value)}

/-- The brace after a member and any space ends the members. -/
theorem readMembers_last_of_skip (named : readString text = .ok (name, tail))
    (colon : skip tail = ':' :: body)
    (read : readValue fractions steps (skip body) = .ok (item, after))
    (closes : skip after = '\x7d' :: rest) :
    readMembers fractions (steps + 1) ('"' :: text) = .ok ([(.text name, item)], rest) := by
  rw [readMembers, named]
  simp only [colon, read, closes]

/-- The comma after a member leads to more members. -/
theorem readMembers_more_of_skip (named : readString text = .ok (name, tail))
    (colon : skip tail = ':' :: body)
    (read : readValue fractions steps (skip body) = .ok (item, ',' :: more))
    (others : readMembers fractions steps (skip more) = .ok (members, rest)) :
    readMembers fractions (steps + 1) ('"' :: text) =
      .ok ((.text name, item) :: members, rest) := by
  have comma : skip (',' :: more) = ',' :: more := skip_mark (by simp) more
  rw [readMembers, named]
  simp only [colon, read, comma, others]
  rfl

/-- The brace after a written member ends the members. -/
theorem readMembers_last (layout : Layout) (name : String) {part : List Char}
    (starts : Starts part)
    (read : readValue fractions steps (part ++ text) = .ok (item, '\x7d' :: rest)) :
    readMembers fractions (steps + 1) (memberText layout name part ++ text) =
      .ok ([(.text name, item)], rest) := by
  rw [memberText_append]
  exact readMembers_last_of_skip (readString_stringChars name _) (skip_colon layout)
    (by rwa [skip_value layout starts]) (skip_mark (by simp) rest)

/-- The comma after a written member leads to more members. -/
theorem readMembers_more (layout : Layout) (name : String) {part : List Char}
    (starts : Starts part)
    (read : readValue fractions steps (part ++ text) = .ok (item, ',' :: more))
    (others : readMembers fractions steps (skip more) = .ok (members, rest)) :
    readMembers fractions (steps + 1) (memberText layout name part ++ text) =
      .ok ((.text name, item) :: members, rest) := by
  rw [memberText_append]
  exact readMembers_more_of_skip (readString_stringChars name _) (skip_colon layout)
    (by rwa [skip_value layout starts]) others

end Members

end Steps

end Stencil.Json
