import Stencil.Text.Alphanumeric
import Stencil.Text.Blank

/-!
# Laws of white space

The blanks one by one, and what follows for texts that start or end with them: no blank is part of
a word, and trimming takes away exactly the blanks around a text that has none at its ends.
-/

namespace Stencil.Text

/-- Nothing is inside the class without boundaries. -/
theorem insideBounds_nil (n : Nat) : insideBounds [] n = false := rfl

/-- A class of characters is its first interval and the class of the later boundaries. -/
theorem insideBounds_interval (low high : Nat) (bounds : List Nat) (n : Nat) :
    insideBounds (low :: high :: bounds) n = true ↔
      low ≤ n ∧ (n < high ∨ insideBounds bounds n = true) := by
  by_cases below : n < low
  · simp [insideBounds, below, Nat.not_le.mpr below]
  · by_cases inside : n < high
    · simp [insideBounds, below, inside, Nat.not_lt.mp below]
    · simp [insideBounds, below, inside, Nat.not_lt.mp below]

/-- The code points of all blanks. -/
def blankPoints : List Nat := [
  9, 10, 11, 12, 13, 28, 29, 30, 31, 32, 133, 160, 5760, 8192, 8193, 8194, 8195, 8196, 8197, 8198,
  8199, 8200, 8201, 8202, 8232, 8233, 8239, 8287, 12288]

/-- A blank has one of the listed code points. -/
theorem mem_blankPoints {c : Char} (h : isBlank c) : c.toNat ∈ blankPoints := by
  unfold isBlank at h
  generalize c.toNat = n at h
  simp only [blankBounds, insideBounds_interval, insideBounds_nil, Bool.false_eq_true,
    or_false] at h
  simp only [blankPoints, List.mem_cons, List.not_mem_nil, or_false]
  omega

/-- Whatever holds of the characters with the listed code points holds of every blank. -/
theorem forall_blank {p : Char → Prop} (h : ∀ n ∈ blankPoints, p (Char.ofNat n)) {c : Char}
    (blank : isBlank c) : p c := by
  have hp := h c.toNat (mem_blankPoints blank)
  rwa [Char.ofNat_toNat] at hp

/-- No blank is a letter or digit. -/
theorem isAlphanumeric_of_isBlank {c : Char} (h : isBlank c) : isAlphanumeric c = false := by
  apply forall_blank (p := fun c => isAlphanumeric c = false) _ h
  decide +kernel

/-- Leading blanks are trimmed. -/
theorem trimStart_append {before : List Char} (blank : ∀ c ∈ before, isBlank c)
    (text : List Char) : trimStart (before ++ text) = trimStart text := by
  unfold trimStart
  rw [List.dropWhile_append_of_pos blank]

/-- Trailing blanks are trimmed. -/
theorem trimEnd_append {after : List Char} (blank : ∀ c ∈ after, isBlank c) (text : List Char) :
    trimEnd (text ++ after) = trimEnd text := by
  unfold trimEnd
  rw [List.reverse_append, List.dropWhile_append_of_pos]
  intro c hc
  exact blank c (List.mem_reverse.mp hc)

/-- A text that ends with no blank keeps its end. -/
theorem trimEnd_concat (text : List Char) {c : Char} (h : isBlank c = false) :
    trimEnd (text ++ [c]) = text ++ [c] := by
  simp [trimEnd, h]

/-- A text is what is left when its end is trimmed, followed by blanks. -/
theorem exists_trimEnd_append (text : List Char) :
    ∃ after, (∀ c ∈ after, isBlank c) ∧ text = trimEnd text ++ after := by
  refine ⟨(text.reverse.takeWhile isBlank).reverse, fun c among => ?_, ?_⟩
  · exact List.all_eq_true.mp List.all_takeWhile c (List.mem_reverse.mp among)
  · rw [trimEnd, ← List.reverse_append, List.takeWhile_append_dropWhile, List.reverse_reverse]

/-- What fails a test is kept where characters that pass it are dropped in front. -/
theorem mem_dropWhile {p : Char → Bool} {c : Char} {text : List Char} (fails : p c = false)
    (among : c ∈ text) : c ∈ text.dropWhile p := by
  induction text with
  | nil => cases among
  | cons first rest ih =>
    by_cases passes : p first
    · rw [List.dropWhile_cons_of_pos passes]
      rcases List.mem_cons.mp among with rfl | later
      · rw [fails] at passes
        cases passes
      · exact ih later
    · rwa [List.dropWhile_cons_of_neg passes]

/-- A character that is no blank is kept by trimming. -/
theorem mem_trim {c : Char} {text : List Char} (visible : isBlank c = false) (among : c ∈ text) :
    c ∈ trim text := by
  have start : c ∈ trimStart text := mem_dropWhile visible among
  have ending := mem_dropWhile visible (List.mem_reverse.mpr start)
  exact List.mem_reverse.mpr ending

/-- Something is left of a trimmed text exactly if one of its characters is no blank. -/
theorem trim_ne_nil_iff {text : List Char} :
    trim text ≠ [] ↔ ∃ c ∈ text, isBlank c = false := by
  constructor
  · intro left
    refine Classical.byContradiction fun all => left ?_
    have blank : ∀ c ∈ text, isBlank c = true := by simpa using all
    have nothing := trimStart_append blank []
    rw [List.append_nil] at nothing
    rw [trim, nothing]
    rfl
  · rintro ⟨c, among, visible⟩
    exact List.ne_nil_of_mem (mem_trim visible among)

/-- A text without blanks keeps its ends. -/
theorem trim_of_no_blank {text : List Char} (h : ∀ c ∈ text, isBlank c = false) :
    trim text = text := by
  have keeps (cs : List Char) (plain : ∀ c ∈ cs, isBlank c = false) :
      cs.dropWhile isBlank = cs := by
    cases cs with
    | nil => rfl
    | cons c cs => exact trimStart_of_head cs (plain c List.mem_cons_self)
  rw [trim, trimStart, keeps text h, trimEnd, keeps, List.reverse_reverse]
  intro c hc
  exact h c (List.mem_reverse.mp hc)

/-- Trimming gives a text without blanks at its ends back, whatever blanks surround it. -/
theorem trim_surrounded {before after : List Char} {first last : Char}
    (blankBefore : ∀ c ∈ before, isBlank c) (blankAfter : ∀ c ∈ after, isBlank c)
    (middle : List Char) (starts : isBlank first = false) (ends : isBlank last = false) :
    trim (before ++ (first :: middle ++ [last]) ++ after) = first :: middle ++ [last] := by
  have start : trimStart (before ++ (first :: middle ++ [last]) ++ after) =
      first :: middle ++ [last] ++ after := by
    rw [List.append_assoc, trimStart_append blankBefore]
    exact trimStart_of_head _ starts
  rw [trim, start, trimEnd_append blankAfter, trimEnd_concat _ ends]

end Stencil.Text
