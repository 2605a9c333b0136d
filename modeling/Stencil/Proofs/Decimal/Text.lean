import Stencil.Decimal.Text
import Stencil.Proofs.Number.Numeral
import Stencil.Proofs.Text.Blank

/-!
# The text of a decimal number

The text of a finite number is a numeral with its coefficient and its exponent after an optional
sign, so reading the text gives the number back: its sign, its digits and its scale.
-/

namespace Stencil.Decimal

open Number

/-- A finite number whose exponents are within the limits. -/
def IsAdmitted : Decimal → Prop
  | .finite _ coefficient exponent =>
    leadingExponent coefficient exponent ≤ exponentLimit ∧ quantumLimit ≤ exponent
  | _ => False

/-- A number whose first digit stands after the point is written with zeros in front. -/
theorem exists_numeral_small {coefficient : Nat} {exponent : Int}
    (small : exponent + (digits coefficient).length ≤ 0) :
    ∃ n : Numeral, n.chars = pointed (digits coefficient)
        (exponent + (digits coefficient).length) ∧
      n.scientific = ⟨coefficient, exponent⟩ ∧ n.fraction ≠ [] := by
  have zeros (k : Nat) : AreDigits (List.replicate k '0') := by
    intro c hc
    rw [(List.mem_replicate.mp hc).2]
    rfl
  let k := (-(exponent + (digits coefficient).length)).toNat
  have tail : List.replicate k '0' ++ digits coefficient ≠ [] := by simp [digits_ne_nil]
  refine ⟨⟨['0'], List.replicate k '0' ++ digits coefficient, none, zeros 1,
    (zeros k).append (areDigits_digits coefficient), by decide, .inl rfl⟩, ?_, ?_, tail⟩
  · rw [Numeral.chars, Numeral.fractionText, if_neg tail, pointed, if_pos small]
    simp [Numeral.exponentPart, k]
  · have value : ofDigitValues (digitValues (List.replicate (k + 1) '0' ++ digits coefficient)) =
        coefficient := by rw [ofDigitValues_zeros, ofDigitValues_digits]
    refine Numeral.scientific_eq value ?_
    simp only [Option.getD_none, List.length_append, List.length_replicate]
    omega

/-- A number with the point among its digits. -/
theorem exists_numeral_inside {coefficient : Nat} {exponent : Int}
    (starts : 0 < exponent + (digits coefficient).length) (negative : exponent < 0) :
    ∃ n : Numeral, n.chars = pointed (digits coefficient)
        (exponent + (digits coefficient).length) ∧
      n.scientific = ⟨coefficient, exponent⟩ ∧ n.fraction ≠ [] := by
  have leading : (digits coefficient).head? ≠ some '0' := by
    rcases digits_leading coefficient with zero | leading
    · rw [zero] at starts
      simp only [List.length_singleton] at starts
      omega
    · exact leading
  obtain ⟨place, at_place⟩ : ∃ place : Nat, exponent + (digits coefficient).length = place :=
    ⟨_, (Int.toNat_of_nonneg (Int.le_of_lt starts)).symm⟩
  have positive : 0 < place := by omega
  have fraction : (digits coefficient).drop place ≠ [] := by
    rw [ne_eq, List.drop_eq_nil_iff]
    omega
  obtain ⟨first, others, split⟩ := List.exists_cons_of_ne_nil (digits_ne_nil coefficient)
  obtain ⟨before, rfl⟩ : ∃ before, place = before + 1 := ⟨place - 1, by omega⟩
  refine ⟨⟨(digits coefficient).take (before + 1), (digits coefficient).drop (before + 1), none,
    (areDigits_digits coefficient).of_subset (List.take_subset _ _),
    (areDigits_digits coefficient).of_subset (List.drop_subset _ _), by simp [split],
    .inr (by simpa [split] using leading)⟩, ?_, ?_, fraction⟩
  · have notSmall : ¬((before + 1 : Nat) : Int) ≤ 0 := by omega
    have notWhole : ¬((digits coefficient).length : Int) ≤ (before + 1 : Nat) := by omega
    rw [Numeral.chars, Numeral.fractionText, if_neg fraction, at_place, pointed, if_neg notSmall,
      if_neg notWhole]
    simp [Numeral.exponentPart]
  · refine Numeral.scientific_eq ?_ ?_
    · rw [List.take_append_drop, ofDigitValues_digits]
    · simp only [Option.getD_none, List.length_drop]
      omega

/-- A number with one digit before the point. -/
theorem exists_numeral_scientific (coefficient : Nat) (exponent : Int) :
    ∃ n : Numeral, n.chars = scientific (digits coefficient)
        (exponent + (digits coefficient).length - 1) ∧
      n.scientific = ⟨coefficient, exponent⟩ ∧ n.exponent ≠ none := by
  have all := areDigits_digits coefficient
  have value := ofDigitValues_digits coefficient
  have lead (first : Char) : [first] = ['0'] ∨ [first].head? ≠ some '0' := by
    by_cases zero : first = '0'
    · exact .inl (by rw [zero])
    · exact .inr (by simpa using zero)
  generalize hx : exponent + (digits coefficient).length - 1 = x
  cases hd : digits coefficient with
  | nil => exact absurd hd (digits_ne_nil coefficient)
  | cons first others =>
    rw [hd] at all value hx
    refine ⟨⟨[first], others, some x, all.of_subset (by simp), all.of_subset (by simp), by simp,
      lead first⟩, ?_, ?_, by simp⟩
    · cases others <;> rfl
    · refine Numeral.scientific_eq value ?_
      simp only [List.length_cons] at hx
      simp only [Option.getD_some]
      omega

/-- The digits of a finite number are written as a numeral. A number with a fraction is written
with a point or an exponent. -/
theorem exists_numeral (coefficient : Nat) (exponent : Int) :
    ∃ n : Numeral, n.chars = magnitudeText coefficient exponent ∧
      n.scientific = ⟨coefficient, exponent⟩ ∧
      (exponent < 0 → n.fraction ≠ [] ∨ n.exponent ≠ none) := by
  unfold magnitudeText
  dsimp only
  split
  · next plain =>
    simp only [Bool.and_eq_true, decide_eq_true_eq] at plain
    by_cases small : exponent + (digits coefficient).length ≤ 0
    · obtain ⟨n, chars, spelled, fraction⟩ := exists_numeral_small small
      exact ⟨n, chars, spelled, fun _ => .inl fraction⟩
    · by_cases negative : exponent < 0
      · obtain ⟨n, chars, spelled, fraction⟩ :=
          exists_numeral_inside (Int.not_le.mp small) negative
        exact ⟨n, chars, spelled, fun _ => .inl fraction⟩
      · obtain rfl : exponent = 0 := by omega
        have whole : ((digits coefficient).length : Int) ≤ 0 + (digits coefficient).length := by
          omega
        refine ⟨Numeral.ofNat coefficient, ?_, ?_, fun h => absurd h (by decide)⟩
        · rw [Numeral.chars_ofNat, pointed, if_neg small, if_pos whole]
        · refine Numeral.scientific_eq ?_ rfl
          rw [Numeral.ofNat, List.append_nil, ofDigitValues_digits]
  · obtain ⟨n, chars, spelled, power⟩ := exists_numeral_scientific coefficient exponent
    exact ⟨n, chars, spelled, fun _ => .inr power⟩

/-- A text of marks is read as it is. -/
theorem cleaned_of_marks {text : List Char} (marks : ∀ c ∈ text, IsMark c) :
    ((Text.trim text).filter (· ≠ '_')).mapM asciiDigit? = some text := by
  have trimmed := Text.trim_of_no_blank fun c hc => (marks c hc).plain.1
  have kept : text.filter (· ≠ '_') = text := by
    rw [List.filter_eq_self]
    intro c hc
    exact decide_eq_true (marks c hc).plain.2.1
  rw [trimmed, kept]
  clear trimmed kept
  induction text with
  | nil => rfl
  | cons c text ih =>
    rw [List.mapM_cons, (marks c List.mem_cons_self).plain.2.2,
      ih fun d hd => marks d (List.mem_cons_of_mem c hd)]
    rfl

/-- A text that starts with a digit is read as a finite number. -/
theorem readUnsigned?_of_isDigit {c : Char} (digit : c.isDigit) (negative : Bool)
    (rest : List Char) :
    readUnsigned? negative (c :: rest) =
      (readScientific? (c :: rest)).bind (ofScientific? negative) := by
  have lower : c.toLower = c := by
    apply dif_neg
    rintro ⟨letter, -⟩
    have above : 65 ≤ c.toNat := letter
    have below := (toNat_of_isDigit digit).2
    omega
  unfold readUnsigned?
  rw [List.map_cons, lower]
  split
  · next word => exact absurd (List.cons.inj word).1 (ne_of_isDigit digit rfl)
  · next word => exact absurd (List.cons.inj word).1 (ne_of_isDigit digit rfl)
  · next word => exact absurd (List.cons.inj word).1 (ne_of_isDigit digit rfl)
  · next word => exact absurd (List.cons.inj word).1 (ne_of_isDigit digit rfl)
  · rfl

/-- What is read from digits is within the limits. -/
theorem isAdmitted_of_ofScientific? {negative : Bool} {n : Scientific} {d : Decimal}
    (h : ofScientific? negative n = some d) : d.IsAdmitted := by
  unfold ofScientific? at h
  split at h
  · next limits =>
    cases h
    rwa [Bool.and_eq_true, decide_eq_true_eq, decide_eq_true_eq] at limits
  · cases h

/-- A text of marks that starts with a digit after its sign is read as a number within the
limits. -/
theorem isAdmitted_of_read? {text rest : List Char} {c : Char} {negative : Bool} {d : Decimal}
    (marks : ∀ c ∈ text, IsMark c) (signed : splitSign text = (negative, c :: rest))
    (digit : c.isDigit) (h : read? text = some d) : d.IsAdmitted := by
  simp only [read?, cleaned_of_marks marks, Option.bind_eq_bind, Option.bind_some, signed,
    readUnsigned?_of_isDigit digit] at h
  obtain ⟨n, -, limits⟩ := Option.bind_eq_some_iff.mp h
  exact isAdmitted_of_ofScientific? limits

/-- The marks of the text of a finite number. -/
theorem isMark_of_mem_chars {negative : Bool} {coefficient : Nat} {exponent : Int} {c : Char}
    (h : c ∈ (finite negative coefficient exponent).chars) : IsMark c := by
  obtain ⟨n, chars, -, -⟩ := exists_numeral coefficient exponent
  rcases List.mem_append.mp h with h | h
  · cases negative with
    | false => cases h
    | true =>
      rw [List.mem_singleton.mp h]
      exact .inr (by simp)
  · rw [← chars] at h
    exact Numeral.isMark_of_mem_chars h

/-- The text of an admitted number is read as the number. -/
theorem read?_chars {d : Decimal} (admitted : d.IsAdmitted) : read? d.chars = some d := by
  cases d with
  | infinite => cases admitted
  | undefined => cases admitted
  | finite negative coefficient exponent =>
    obtain ⟨n, chars, spelled, -⟩ := exists_numeral coefficient exponent
    obtain ⟨c, rest, split, digit⟩ := n.exists_chars_eq_cons
    have sign : splitSign (finite negative coefficient exponent).chars = (negative, n.chars) := by
      rw [Decimal.chars, ← chars]
      cases negative with
      | true => rfl
      | false =>
        rw [split]
        exact splitSign_of_isDigit rest digit
    have inLimits : ofScientific? negative ⟨coefficient, exponent⟩ =
        some (finite negative coefficient exponent) := by
      rw [ofScientific?, if_pos]
      simpa [IsAdmitted] using admitted
    rw [read?, cleaned_of_marks fun c hc => isMark_of_mem_chars hc]
    have unsigned := readUnsigned?_of_isDigit digit negative rest
    rw [← split, n.readScientific?_chars, spelled] at unsigned
    simp only [Option.bind_eq_bind, Option.bind_some, sign, unsigned, inLimits]

end Stencil.Decimal
