import Stencil.Number.Digits
import Stencil.Number.Written
import Stencil.Proofs.Text.Blank

/-!
# Digits and numerals

What the digits of a natural number are, how many there are, and what number they spell again. The
form in which numbers are written: digits without leading zeros, digits after a point, and a power
of ten. A numeral read as a number with a point and an exponent gives its own digits and its own
scale, and one of digits alone is read as an integer.
-/

namespace Stencil.Number

/-- Every character is a decimal digit. -/
def AreDigits (ds : List Char) : Prop := ∀ c ∈ ds, c.isDigit

/-- The values of digits. -/
def digitValues (ds : List Char) : List Nat := ds.map fun c => c.toNat - 48

/-- Digits lie next to each other. -/
theorem toNat_of_isDigit {c : Char} (h : c.isDigit) : 48 ≤ c.toNat ∧ c.toNat ≤ 57 := by
  simp only [Char.isDigit, Bool.and_eq_true, decide_eq_true_eq] at h
  exact h

/-- A digit differs from every character that is none. -/
theorem ne_of_isDigit {c d : Char} (h : c.isDigit) (other : d.isDigit = false) : c ≠ d := by
  rintro rfl
  rw [other] at h
  cases h

/-- Two runs of digits make one. -/
theorem AreDigits.append {ds es : List Char} (h : AreDigits ds) (h' : AreDigits es) :
    AreDigits (ds ++ es) := by
  intro c hc
  rcases List.mem_append.mp hc with hc | hc
  · exact h c hc
  · exact h' c hc

/-- A part of a run of digits is one. -/
theorem AreDigits.of_subset {ds es : List Char} (h : AreDigits ds) (part : es ⊆ ds) :
    AreDigits es := fun c hc => h c (part hc)

/-- The digits of a number are digits. -/
theorem areDigits_digits (n : Nat) : AreDigits (digits n) := fun _ hc =>
  Nat.isDigit_of_mem_toDigits (by decide) (by decide) hc

/-- Every number has a digit. -/
theorem digits_ne_nil (n : Nat) : digits n ≠ [] := Nat.toDigits_ne_nil

/-- The digits of a number spell it. -/
theorem ofDigitValues_digits (n : Nat) : ofDigitValues (digitValues (digits n)) = n := by
  have spelled : Nat.ofDigitChars 10 (digits n) 0 = n := Nat.ofDigitChars_ten_toDigits
  rw [Nat.ofDigitChars_eq_foldl] at spelled
  rw [ofDigitValues, digitValues, List.foldl_map]
  exact spelled

/-- Zeros in front change nothing. -/
theorem ofDigitValues_zeros (n : Nat) (ds : List Char) :
    ofDigitValues (digitValues (List.replicate n '0' ++ ds)) =
      ofDigitValues (digitValues ds) := by
  induction n with
  | zero => rfl
  | succ n ih =>
    rw [← ih]
    rfl

/-- A larger power of ten is larger. -/
theorem pow10_le_pow10 {m n : Nat} (le : m ≤ n) : pow10 m ≤ pow10 n :=
  Nat.pow_le_pow_right (by decide) le

/-- Some digits spell a number of at most as many digits. -/
theorem ofDigitValues_lt {ds : List Nat} (small : ∀ d ∈ ds, d < 10) :
    ofDigitValues ds < pow10 ds.length := by
  -- by induction on the digits, for the value of any digits before
  have scan (ds : List Nat) (small : ∀ d ∈ ds, d < 10) (before : Nat) :
      ds.foldl (fun value d => 10 * value + d) before < (before + 1) * pow10 ds.length := by
    induction ds generalizing before with
    | nil =>
      rw [List.foldl_nil, List.length_nil, pow10_zero]
      omega
    | cons d ds ih =>
      have digit := small d List.mem_cons_self
      have others := ih (fun e later => small e (List.mem_cons_of_mem d later)) (10 * before + d)
      have bound : 10 * before + d + 1 ≤ 10 * (before + 1) := by omega
      rw [List.foldl_cons, List.length_cons, pow10_succ, ← Nat.mul_assoc, Nat.mul_comm _ 10]
      exact Nat.lt_of_lt_of_le others (Nat.mul_le_mul_right _ bound)
  have whole := scan ds small 0
  rwa [Nat.zero_add, Nat.one_mul] at whole

/-- A number has at most `k` digits when it is below the power of ten. -/
theorem digitCount_le_iff {n k : Nat} (h : 0 < k) : digitCount n ≤ k ↔ n < pow10 k :=
  Nat.length_toDigits_le_iff (by decide) h

/-- Ten times a number has one more digit. -/
theorem digits_ten_mul {n : Nat} (h : 0 < n) : digits (10 * n) = digits n ++ ['0'] :=
  (Nat.toDigits_append_toDigits (by decide) h (by decide : 0 < 10)).symm

/-- A power of ten adds as many zeros. -/
theorem digits_mul_pow10 {n : Nat} (h : 0 < n) (k : Nat) :
    digits (n * pow10 k) = digits n ++ List.replicate k '0' := by
  induction k with
  | zero => rw [pow10_zero, Nat.mul_one, List.replicate_zero, List.append_nil]
  | succ k ih =>
    have positive : 0 < n * pow10 k := Nat.mul_pos h (pow10_pos k)
    have times : n * pow10 (k + 1) = 10 * (n * pow10 k) := by
      rw [pow10_succ, Nat.mul_left_comm]
    rw [times, digits_ten_mul positive, ih, List.append_assoc, List.replicate_succ']

/-- A power of ten adds as many digits. -/
theorem digitCount_mul_pow10 {n : Nat} (h : 0 < n) (k : Nat) :
    digitCount (n * pow10 k) = digitCount n + k := by
  rw [digitCount, digits_mul_pow10 h, List.length_append, List.length_replicate, digitCount]

/-- A number that is no multiple of ten does not end with a zero. -/
theorem getLast?_digits {n : Nat} (h : n % 10 ≠ 0) : (digits n).getLast? ≠ some '0' := by
  have last : (digits n).getLast? = some (n % 10).digitChar := by
    by_cases small : n < 10
    · rw [digits, Nat.toDigits_of_lt_base small, Nat.mod_eq_of_lt small]
      rfl
    · have whole : digits n = digits (n / 10) ++ [(n % 10).digitChar] :=
        Nat.toDigits_of_base_le (by decide) (by omega)
      rw [whole, List.getLast?_concat]
  rw [last]
  intro zero
  have value := Nat.toNat_digitChar_sub_48_of_lt_ten (Nat.mod_lt n (by decide : 0 < 10))
  rw [Option.some.inj zero] at value
  exact h value.symm

/-- The first digit of a positive number is not zero. -/
theorem head?_digits {n : Nat} (h : 0 < n) : (digits n).head? ≠ some '0' := by
  induction n using Nat.strongRecOn with
  | ind n ih =>
    by_cases small : n < 10
    · rw [digits, Nat.toDigits_of_lt_base small]
      intro zero
      have value := Nat.toNat_digitChar_sub_48_of_lt_ten small
      rw [Option.some.inj zero] at value
      have nothing : n = 0 := value.symm
      omega
    · have more : 0 < n / 10 := by omega
      have rest := ih (n / 10) (by omega) more
      obtain ⟨first, others, split⟩ := List.exists_cons_of_ne_nil (digits_ne_nil (n / 10))
      have whole : digits n = digits (n / 10) ++ [(n % 10).digitChar] :=
        Nat.toDigits_of_base_le (by decide) (by omega)
      rw [whole, split, List.cons_append, List.head?_cons]
      rwa [split, List.head?_cons] at rest

/-- Only zero starts with a zero. -/
theorem digits_leading (n : Nat) : digits n = ['0'] ∨ (digits n).head? ≠ some '0' := by
  cases n with
  | zero => exact .inl rfl
  | succ n => exact .inr (head?_digits (Nat.succ_pos n))

end Stencil.Number

namespace Stencil.Number

/-- A character that the text of a number may hold. -/
def IsMark (c : Char) : Prop := c.isDigit ∨ c ∈ ['.', 'e', 'E', '-', '+']

/-- Marks are ASCII characters that reading takes as they are. -/
theorem IsMark.plain {c : Char} (h : IsMark c) :
    Text.isBlank c = false ∧ c ≠ '_' ∧ asciiDigit? c = some c := by
  rcases h with digit | mark
  · have ascii : c.toNat < 128 := by
      have upper := (toNat_of_isDigit digit).2
      omega
    refine ⟨?_, ne_of_isDigit digit rfl, if_pos ascii⟩
    rw [Bool.eq_false_iff]
    intro blank
    have apart := Text.isAlphanumeric_of_isBlank blank
    rw [Text.isAlphanumeric_of_isAlphanum c ascii] at apart
    simp [Char.isAlphanum, digit] at apart
  · simp only [List.mem_cons, List.not_mem_nil, or_false] at mark
    rcases mark with rfl | rfl | rfl | rfl | rfl <;> decide

/-- A written number without its sign. -/
structure Numeral where
  /-- The digits before the point. -/
  whole : List Char
  /-- The digits after the point, which is left out where there are none. -/
  fraction : List Char
  /-- The power of ten, if one is written. -/
  exponent : Option Int
  /-- The first part consists of digits. -/
  whole_digits : AreDigits whole
  /-- The second part consists of digits. -/
  fraction_digits : AreDigits fraction
  /-- There is a digit before the point. -/
  whole_ne_nil : whole ≠ []
  /-- Only a lone zero starts with a zero. -/
  leading : whole = ['0'] ∨ whole.head? ≠ some '0'

/-- The text of a power of ten. -/
def exponentText (exponent : Int) : List Char :=
  'E' :: (if exponent < 0 then '-' else '+') :: digits exponent.natAbs

namespace Numeral

/-- The point and the digits after it. -/
def fractionText (n : Numeral) : List Char :=
  if n.fraction = [] then [] else '.' :: n.fraction

/-- The text of the power of ten. -/
def exponentPart (n : Numeral) : List Char := (n.exponent.map exponentText).getD []

/-- The text of a numeral. -/
def chars (n : Numeral) : List Char := n.whole ++ (n.fractionText ++ n.exponentPart)

/-- The number that a numeral spells. -/
def scientific (n : Numeral) : Scientific :=
  ⟨ofDigitValues (digitValues (n.whole ++ n.fraction)), n.exponent.getD 0 - n.fraction.length⟩

/-- The number that a numeral spells, from its value and its scale. -/
theorem scientific_eq {n : Numeral} {coefficient : Nat} {exponent : Int}
    (value : ofDigitValues (digitValues (n.whole ++ n.fraction)) = coefficient)
    (scale : n.exponent.getD 0 - n.fraction.length = exponent) :
    n.scientific = ⟨coefficient, exponent⟩ := by
  rw [scientific, value, scale]

/-- A numeral of digits alone. -/
def ofNat (n : Nat) : Numeral :=
  ⟨digits n, [], none, areDigits_digits n, nofun, digits_ne_nil n, digits_leading n⟩

/-- A numeral of digits alone is written as them. -/
theorem chars_ofNat (n : Nat) : (ofNat n).chars = digits n := by
  simp [ofNat, chars, fractionText, exponentPart]

/-- A numeral starts with a digit. -/
theorem exists_chars_eq_cons (n : Numeral) : ∃ c rest, n.chars = c :: rest ∧ c.isDigit := by
  obtain ⟨c, others, split⟩ := List.exists_cons_of_ne_nil n.whole_ne_nil
  have digit : c.isDigit := n.whole_digits c (by simp [split])
  exact ⟨c, others ++ (n.fractionText ++ n.exponentPart), by simp [chars, split], digit⟩

/-- The marks of a numeral are digits, the point, the letter of the exponent and its sign. -/
theorem isMark_of_mem_chars {n : Numeral} {c : Char} (h : c ∈ n.chars) : IsMark c := by
  rcases List.mem_append.mp h with h | h
  · exact .inl (n.whole_digits c h)
  rcases List.mem_append.mp h with h | h
  · unfold fractionText at h
    split at h
    · cases h
    · rcases List.mem_cons.mp h with rfl | h
      · exact .inr (by simp)
      · exact .inl (n.fraction_digits c h)
  · unfold exponentPart at h
    cases hx : n.exponent with
    | none =>
      rw [hx] at h
      cases h
    | some exponent =>
      rw [hx] at h
      rcases List.mem_cons.mp h with rfl | h
      · exact .inr (by simp)
      rcases List.mem_cons.mp h with rfl | h
      · split <;> exact .inr (by simp)
      · exact .inl (areDigits_digits _ c h)

end Numeral

/-- The digits at the start of a text end where another character follows. -/
theorem spanDigits_append {ds rest : List Char} (all : AreDigits ds)
    (ends : ∀ c ∈ rest.head?, c.isDigit = false) :
    spanDigits (ds ++ rest) = (digitValues ds, rest) := by
  induction ds with
  | nil =>
    cases rest with
    | nil => rfl
    | cons c rest =>
      rw [List.nil_append, spanDigits, ends c rfl]
      rfl
  | cons d ds ih =>
    have digit : d.isDigit := all d List.mem_cons_self
    have others := ih (all.of_subset (List.subset_cons_self d ds))
    rw [List.cons_append, spanDigits, digit, others]
    rfl

/-- A number is not read as empty. -/
theorem digitValues_digits_ne_nil (n : Nat) : digitValues (digits n) ≠ [] := by
  rw [digitValues, ne_eq, List.map_eq_nil_iff]
  exact digits_ne_nil n

/-- The text of a power of ten is read as it. -/
theorem readExponent?_exponentText (exponent : Int) :
    readExponent? (exponentText exponent) = some exponent := by
  have nothing : ∀ c ∈ ([] : List Char).head?, c.isDigit = false := nofun
  have all := spanDigits_append (areDigits_digits exponent.natAbs) nothing
  obtain ⟨d, ds, some_digit⟩ := List.exists_cons_of_ne_nil
    (digitValues_digits_ne_nil exponent.natAbs)
  have value : ofDigitValues (d :: ds) = exponent.natAbs := by
    rw [← some_digit, ofDigitValues_digits]
  rw [List.append_nil, some_digit] at all
  unfold exponentText readExponent?
  by_cases negative : exponent < 0
  · rw [if_pos negative]
    simp only [splitSign, all, value, decide_true, Bool.or_true, if_true, Option.some.injEq]
    omega
  · rw [if_neg negative]
    simp only [splitSign, all, value, decide_true, Bool.or_true, if_true, Bool.false_eq_true,
      if_false, Option.some.injEq]
    omega

namespace Numeral

/-- The digits before the point end at it, or where a power of ten or the end follows. -/
theorem head?_fractionText (n : Numeral) {rest : List Char}
    (ends : ∀ c ∈ rest.head?, c.isDigit = false) :
    ∀ c ∈ (n.fractionText ++ rest).head?, c.isDigit = false := by
  unfold fractionText
  split
  · exact ends
  · intro c hc
    cases hc
    rfl

/-- The digits of a numeral are read up to a power of ten, which is added to their scale. -/
theorem readScientific?_append (n : Numeral) {power : List Char} {exponent : Int}
    (apart : ∀ c ∈ power.head?, c.isDigit = false ∧ c ≠ '.')
    (read : readExponent? power = some exponent) :
    readScientific? (n.whole ++ (n.fractionText ++ power)) =
      some ⟨ofDigitValues (digitValues (n.whole ++ n.fraction)),
        exponent - n.fraction.length⟩ := by
  have noDigit : ∀ c ∈ power.head?, c.isDigit = false := fun c hc => (apart c hc).1
  have whole := spanDigits_append n.whole_digits (n.head?_fractionText noDigit)
  have fraction := spanDigits_append n.fraction_digits noDigit
  obtain ⟨d, ds, some_digit⟩ := List.exists_cons_of_ne_nil n.whole_ne_nil
  have notEmpty : (digitValues n.whole).isEmpty = false := by rw [some_digit]; rfl
  have parts : readScientific? (n.whole ++ (n.fractionText ++ power)) =
      (readExponent? power).map fun exponent =>
        ⟨ofDigitValues (digitValues n.whole ++ digitValues n.fraction),
          exponent - (digitValues n.fraction).length⟩ := by
    unfold readScientific?
    rw [whole]
    by_cases none : n.fraction = []
    · simp only [fractionText, none, if_true, List.nil_append, notEmpty, Bool.false_and,
        Bool.false_eq_true, if_false]
      split
      · exact absurd rfl (apart '.' rfl).2
      · rfl
    · simp only [fractionText, none, if_false, List.cons_append, fraction, notEmpty,
        Bool.false_and]
      rfl
  rw [parts, read]
  simp [digitValues]

/-- A numeral is read with its digits and its scale. -/
theorem readScientific?_chars (n : Numeral) : readScientific? n.chars = some n.scientific := by
  refine n.readScientific?_append ?_ ?_ <;> unfold exponentPart <;> cases n.exponent
  · exact nofun
  · intro c hc
    cases hc
    decide
  · rfl
  · exact readExponent?_exponentText _

end Numeral

end Stencil.Number
