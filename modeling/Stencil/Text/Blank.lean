import Stencil.Text.Table

/-!
# White space

The blanks that separate a tag from its expression, arguments from each other, and that are
trimmed from the ends of a text: spaces, tabs, line ends, and the separators of every script.
-/

namespace Stencil.Text

/-- The code points where membership in the class of blanks changes. -/
def blankBounds : List Nat := [
  9, 14, 28, 33, 133, 134, 160, 161, 5760, 5761, 8192, 8203, 8232, 8234, 8239, 8240, 8287, 8288,
  12288, 12289]

/-- A white-space character. -/
def isBlank (c : Char) : Bool := insideBounds blankBounds c.toNat

/-- A white-space character of ASCII, the separators of files, groups, records and units left
out. -/
def isPlainBlank (c : Char) : Bool := c.toNat = 32 || (9 ≤ c.toNat && c.toNat ≤ 13)

/-- Every plain blank is a blank. -/
theorem isBlank_of_isPlainBlank (c : Char) (h : isPlainBlank c) : isBlank c := by
  simp only [isPlainBlank, Bool.or_eq_true, Bool.and_eq_true, decide_eq_true_eq] at h
  simp only [isBlank, blankBounds, insideBounds]
  rcases h with h | h
  · simp [h]
  · have low : ¬ c.toNat < 9 := by omega
    have high : c.toNat < 14 := by omega
    simp [low, high]

/-- The text without its leading blanks. -/
def trimStart (cs : List Char) : List Char := cs.dropWhile isBlank

/-- The text without its trailing blanks. -/
def trimEnd (cs : List Char) : List Char := (cs.reverse.dropWhile isBlank).reverse

/-- The text without the blanks at its ends. -/
def trim (cs : List Char) : List Char := trimEnd (trimStart cs)

/-- A trimmed start begins with no blank. -/
theorem head?_trimStart (cs : List Char) : ∀ c ∈ (trimStart cs).head?, isBlank c = false := by
  intro c h
  induction cs with
  | nil => simp [trimStart] at h
  | cons d ds ih =>
    by_cases hd : isBlank d
    · rw [trimStart, List.dropWhile_cons_of_pos hd] at h
      exact ih h
    · rw [trimStart, List.dropWhile_cons_of_neg hd] at h
      simp only [List.head?_cons, Option.mem_def, Option.some.injEq] at h
      simpa [← h] using hd

/-- A text that begins with no blank keeps its start. -/
theorem trimStart_of_head {c : Char} (cs : List Char) (h : isBlank c = false) :
    trimStart (c :: cs) = c :: cs := by
  simp [trimStart, h]

/-- A string without the blanks at its ends. -/
def strip (s : String) : String := String.ofList (trim s.toList)

end Stencil.Text
