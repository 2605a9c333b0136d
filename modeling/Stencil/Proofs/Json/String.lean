import Stencil.Json.Printer
import Stencil.Json.Reader

/-!
# Strings in JSON text

Reading a written string gives the string back: what is written for a character, one or two escapes
or the character itself, is read as this character.
-/

namespace Stencil.Json

/-- A digit of base sixteen has its value. -/
theorem hexValue?_hexDigit {n : Nat} (h : n < 16) : hexValue? (Text.hexDigit n) = some n := by
  have all : ∀ n < 16, hexValue? (Text.hexDigit n) = some n := by decide
  exact all n h

/-- Four digits are read as the code unit that they spell. -/
theorem codeUnit?_hexDigits {n : Nat} (h : n < 0x10000) (next : Char) (rest : List Char) :
    codeUnit? (Text.hexDigits 4 n ++ next :: rest) = some (n, next :: rest) := by
  have digits : Text.hexDigits 4 n = [Text.hexDigit (n / 16 / 16 / 16 % 16),
      Text.hexDigit (n / 16 / 16 % 16), Text.hexDigit (n / 16 % 16), Text.hexDigit (n % 16)] := rfl
  have below (m : Nat) : m % 16 < 16 := Nat.mod_lt m (by decide)
  have value : ((n / 16 / 16 / 16 % 16 * 16 + n / 16 / 16 % 16) * 16 + n / 16 % 16) * 16 + n % 16 =
      n := by omega
  rw [digits]
  simp only [List.cons_append, List.nil_append, codeUnit?, hexValue?_hexDigit (below _)]
  exact congrArg (fun unit => some (unit, next :: rest)) value

/-- A code unit that is half of no pair is read as its character. -/
theorem readCodePoint?_unit {n : Nat} (h : n < 0x10000) (single : isHighHalf n = false)
    (next : Char) (rest : List Char) :
    readCodePoint? (Text.hexDigits 4 n ++ next :: rest) = some (unitChar n, next :: rest) := by
  rw [readCodePoint?, codeUnit?_hexDigits h]
  simp [single]

/-- Two halves are read as the character of the pair. -/
theorem readCodePoint?_pair {high low : Nat} (isHigh : isHighHalf high) (isLow : isLowHalf low)
    (next : Char) (rest : List Char) :
    readCodePoint? (Text.hexDigits 4 high ++ (unitEscape low ++ next :: rest)) =
      some (pairChar high low, next :: rest) := by
  have highUnit : high < 0x10000 := by
    simp only [isHighHalf, decide_eq_true_eq] at isHigh
    omega
  have lowUnit : low < 0x10000 := by
    simp only [isLowHalf, decide_eq_true_eq] at isLow
    omega
  have first : codeUnit? (Text.hexDigits 4 high ++ (unitEscape low ++ next :: rest)) =
      some (high, unitEscape low ++ next :: rest) := codeUnit?_hexDigits highUnit '\\' _
  have second : lowHalf? (unitEscape low ++ next :: rest) = some (low, next :: rest) := by
    rw [unitEscape, List.cons_append, List.cons_append, lowHalf?, codeUnit?_hexDigits lowUnit]
    simp [isLow]
  rw [readCodePoint?, first]
  simp [isHigh, second]

/-- A character of the lowest plane is the one of its code unit. -/
theorem unitChar_toNat (c : Char) : isHighHalf c.toNat = false ∧ unitChar c.toNat = c := by
  have noHalf : ¬(0xD800 ≤ c.toNat ∧ c.toNat < 0xE000) := by
    have valid : c.toNat < 0xD800 ∨ 0xDFFF < c.toNat ∧ c.toNat < 0x110000 := c.valid
    omega
  have noHigh : isHighHalf c.toNat = false := by
    rw [isHighHalf, decide_eq_false_iff_not]
    omega
  have noLow : isLowHalf c.toNat = false := by
    rw [isLowHalf, decide_eq_false_iff_not]
    omega
  refine ⟨noHigh, ?_⟩
  rw [unitChar, noHigh, noLow]
  exact Char.ofNat_toNat c

/-- A character of the upper planes is the one of its two halves. -/
theorem pairChar_toNat {c : Char} (upper : 0x10000 ≤ c.toNat) :
    isHighHalf (0xD800 + (c.toNat - 0x10000) / 0x400) ∧
      isLowHalf (0xDC00 + (c.toNat - 0x10000) % 0x400) ∧
      pairChar (0xD800 + (c.toNat - 0x10000) / 0x400) (0xDC00 + (c.toNat - 0x10000) % 0x400) =
        c := by
  have valid : c.toNat < 0xD800 ∨ 0xDFFF < c.toNat ∧ c.toNat < 0x110000 := c.valid
  refine ⟨?_, ?_, ?_⟩
  · rw [isHighHalf, decide_eq_true_eq]
    omega
  · rw [isLowHalf, decide_eq_true_eq]
    omega
  · have value : 0x10000 + (0xD800 + (c.toNat - 0x10000) / 0x400 - 0xD800) * 0x400 +
        (0xDC00 + (c.toNat - 0x10000) % 0x400 - 0xDC00) = c.toNat := by omega
    rw [pairChar, value, Char.ofNat_toNat]

/-- What is written for a character: a letter after a backslash, the character itself, or one or two
escapes by code unit. -/
theorem escapeChar_forms (c : Char) :
    (∃ e, escapeChar c = ['\\', e] ∧ shortEscape? e = some c) ∨
    (escapeChar c = [c] ∧ c ≠ '"' ∧ c ≠ '\\' ∧ 32 ≤ c.toNat) ∨
    (escapeChar c = unitEscape c.toNat ∧ c.toNat < 0x10000) ∨
    (escapeChar c = unitEscape (0xD800 + (c.toNat - 0x10000) / 0x400) ++
      unitEscape (0xDC00 + (c.toNat - 0x10000) % 0x400) ∧ 0x10000 ≤ c.toNat) := by
  by_cases short : c ∈ ['"', '\\', '\n', '\r', '\t', '\x08', '\x0c']
  · left
    simp only [List.mem_cons, List.not_mem_nil, or_false] at short
    rcases short with rfl | rfl | rfl | rfl | rfl | rfl | rfl <;>
      exact ⟨_, rfl, rfl⟩
  · right
    simp only [List.mem_cons, List.not_mem_nil, or_false, not_or] at short
    obtain ⟨noQuote, noBackslash, h1, h2, h3, h4, h5⟩ := short
    unfold escapeChar
    rw [if_neg noQuote, if_neg noBackslash, if_neg h1, if_neg h2, if_neg h3, if_neg h4, if_neg h5]
    split
    · next plain =>
      simp only [Bool.and_eq_true, decide_eq_true_eq] at plain
      exact .inl ⟨rfl, noQuote, noBackslash, plain.1⟩
    · split
      · next lowest => exact .inr (.inl ⟨rfl, lowest⟩)
      · next upper => exact .inr (.inr ⟨rfl, Nat.le_of_not_lt upper⟩)

/-- Something is written for every character. -/
theorem escapeChar_ne_nil (c : Char) : escapeChar c ≠ [] := by
  rcases escapeChar_forms c with ⟨e, form, -⟩ | ⟨form, -⟩ | ⟨form, -⟩ | ⟨form, -⟩ <;>
    rw [form] <;> simp [unitEscape]

section Steps

variable (opening : List Char) (steps : Nat)

/-- A string goes on after a character that stands for itself. -/
theorem stringTail_plain {c : Char} (noQuote : c ≠ '"') (noBackslash : c ≠ '\\')
    (visible : 32 ≤ c.toNat) (rest : List Char) :
    stringTail opening (steps + 1) (c :: rest) =
      (stringTail opening steps rest).map fun (ds, final) => (c :: ds, final) := by
  have noControl : ¬c.toNat < 32 := Nat.not_lt_of_le visible
  rw [stringTail.eq_def]
  simp [noQuote, noBackslash, noControl]

/-- A string goes on after a backslash and a letter or a mark. -/
theorem stringTail_escape {e c : Char} (short : shortEscape? e = some c) (rest : List Char) :
    stringTail opening (steps + 1) ('\\' :: e :: rest) =
      (stringTail opening steps rest).map fun (ds, final) => (c :: ds, final) := by
  have notUnit : e ≠ 'u' := by
    rintro rfl
    cases short
  rw [stringTail.eq_def]
  simp [short]

/-- A string goes on after an escape by code point. -/
theorem stringTail_codePoint {digits rest : List Char} {c : Char}
    (read : readCodePoint? digits = some (c, rest)) :
    stringTail opening (steps + 1) ('\\' :: 'u' :: digits) =
      (stringTail opening steps rest).map fun (ds, final) => (c :: ds, final) := by
  rw [stringTail]
  simp only [read]
  rfl

variable {opening steps} in
/-- A string does not go on after an escape by code point that is none. -/
theorem exists_readCodePoint? {digits cs left : List Char}
    (h : stringTail opening (steps + 1) ('\\' :: 'u' :: digits) = .ok (cs, left)) :
    ∃ c rest, readCodePoint? digits = some (c, rest) := by
  rw [stringTail] at h
  cases point : readCodePoint? digits with
  | none =>
    simp only [point] at h
    cases h
  | some found => exact ⟨found.1, found.2, rfl⟩

/-- A string goes on with a character after what is written for it. -/
theorem stringTail_escapeChar (c next : Char) (rest : List Char) :
    stringTail opening (steps + 1) (escapeChar c ++ next :: rest) =
      (stringTail opening steps (next :: rest)).map fun (ds, final) => (c :: ds, final) := by
  rcases escapeChar_forms c with ⟨e, form, short⟩ | ⟨form, noQuote, noBackslash, visible⟩ |
    ⟨form, lowest⟩ | ⟨form, upper⟩
  · rw [form]
    exact stringTail_escape opening steps short _
  · rw [form]
    exact stringTail_plain opening steps noQuote noBackslash visible _
  · obtain ⟨single, same⟩ := unitChar_toNat c
    have read := readCodePoint?_unit lowest single next rest
    rw [same] at read
    rw [form]
    exact stringTail_codePoint opening steps read
  · obtain ⟨isHigh, isLow, same⟩ := pairChar_toNat upper
    have read := readCodePoint?_pair isHigh isLow next rest
    rw [same] at read
    rw [form, List.append_assoc]
    exact stringTail_codePoint opening steps read

end Steps

/-- A way of writing characters from which strings are read back. -/
structure IsSpelling (written : Char → List Char) : Prop where
  /-- A string goes on with a character after what is written for it. -/
  goesOn : ∀ opening steps c next rest,
    stringTail opening (steps + 1) (written c ++ next :: rest) =
      (stringTail opening steps (next :: rest)).map fun (ds, final) => (c :: ds, final)
  /-- Something is written for every character. -/
  nonempty : ∀ c, written c ≠ []

/-- Strings are read back from escapes. -/
theorem isSpelling_escapeChar : IsSpelling escapeChar := ⟨stringTail_escapeChar, escapeChar_ne_nil⟩

namespace IsSpelling

variable {written : Char → List Char}

/-- The rest of a written string is read as its characters, up to the quote that ends it. -/
theorem stringTail_flatMap (spelling : IsSpelling written) (opening text rest : List Char)
    {steps : Nat} (enough : text.length < steps) :
    stringTail opening steps (text.flatMap written ++ '"' :: rest) = .ok (text, rest) := by
  induction text generalizing steps with
  | nil =>
    obtain ⟨more, rfl⟩ : ∃ more, steps = more + 1 := ⟨steps - 1, by omega⟩
    rfl
  | cons c text ih =>
    obtain ⟨more, rfl⟩ : ∃ more, steps = more + 1 := ⟨steps - 1, by omega⟩
    have others := ih (Nat.lt_of_succ_lt_succ enough)
    obtain ⟨next, tail, split⟩ : ∃ next tail,
        text.flatMap written ++ '"' :: rest = next :: tail :=
      List.exists_cons_of_ne_nil (by simp)
    rw [List.flatMap_cons, List.append_assoc, split, spelling.goesOn, ← split, others]
    rfl

/-- A written string is at least as long as the string. -/
theorem length_le (spelling : IsSpelling written) (text : List Char) :
    text.length ≤ (text.flatMap written).length := by
  induction text with
  | nil => exact Nat.le_refl 0
  | cons c text ih =>
    have first := List.length_pos_iff.mpr (spelling.nonempty c)
    rw [List.flatMap_cons, List.length_append, List.length_cons]
    omega

/-- A written string is read as the string, and nothing after its closing quote is. -/
theorem readString_flatMap (spelling : IsSpelling written) (s : String) (rest : List Char) :
    readString (s.toList.flatMap written ++ '"' :: rest) = .ok (s, rest) := by
  have length := spelling.length_le s.toList
  have enough : s.toList.length < (s.toList.flatMap written ++ '"' :: rest).length + 1 := by
    rw [List.length_append]
    omega
  rw [readString, spelling.stringTail_flatMap _ _ _ enough]
  simp [Except.map]

end IsSpelling

/-- A string that is written in escapes is read back. -/
theorem readString_stringChars (s : String) (rest : List Char) :
    readString (s.toList.flatMap escapeChar ++ '"' :: rest) = .ok (s, rest) :=
  isSpelling_escapeChar.readString_flatMap s rest

end Stencil.Json
