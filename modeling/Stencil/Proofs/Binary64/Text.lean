import Mathlib.Data.Nat.Factorization.Basic
import Stencil.Binary64.Text
import Stencil.Proofs.Binary64.Shortest
import Stencil.Proofs.Decimal.Text
import Stencil.Proofs.Json.Number
import Stencil.Proofs.Number.Integer

/-!
# The text of a binary number

A number that is written with marks alone and starts with a digit after its sign is read by its
digits and its scale, whichever kind of number it is read as. So the binary number is the decimal
one rounded.

The text of a finite number is that of a number in JSON: digits, a point or a power of ten. It
spells the shortest decimal of the number, so reading it as a decimal number gives the value of that
decimal.
-/

namespace Stencil

open Number

section Marks

variable {first : Char} {rest : List Char}

/-- A sign is a mark. -/
theorem isMark_of_mem_signed (marks : ∀ c ∈ first :: rest, IsMark c) (negative : Bool) :
    ∀ c ∈ Decimal.signText negative ++ first :: rest, IsMark c := by
  cases negative with
  | true => exact List.forall_mem_cons.mpr ⟨.inr (by simp), marks⟩
  | false => exact marks

/-- The sign is taken off a number. -/
theorem splitSign_signed (digit : first.isDigit) (negative : Bool) :
    splitSign (Decimal.signText negative ++ first :: rest) = (negative, first :: rest) := by
  cases negative with
  | true => rfl
  | false => exact Number.splitSign_of_isDigit rest digit

/-- A signed number is read as a decimal number by its digits and its scale. -/
theorem Decimal.read?_signed (digit : first.isDigit) (marks : ∀ c ∈ first :: rest, IsMark c)
    (negative : Bool) :
    Decimal.read? (Decimal.signText negative ++ first :: rest) =
      (readScientific? (first :: rest)).bind (Decimal.ofScientific? negative) := by
  rw [Decimal.read?, Decimal.cleaned_of_marks (isMark_of_mem_signed marks negative)]
  simp only [Option.bind_eq_bind, Option.bind_some, splitSign_signed digit,
    Decimal.readUnsigned?_of_isDigit digit]

namespace Binary64

/-- A text without underscores is kept as it is. -/
theorem joinDigits?_eq_some {text : List Char} (noMark : ∀ c ∈ text, c ≠ '_') {previous : Char}
    (noMark' : previous ≠ '_') : joinDigits? previous text = some text := by
  induction text generalizing previous with
  | nil => rw [joinDigits?, if_neg noMark']
  | cons c text ih =>
    have here := noMark c List.mem_cons_self
    have later := ih (fun d among => noMark d (List.mem_cons_of_mem c among)) here
    rw [joinDigits?, if_neg here, if_neg, later]
    · rfl
    · simp [noMark']

/-- A text that starts with a digit is read by its digits and its scale. -/
theorem readUnsigned?_of_isDigit (digit : first.isDigit) (negative : Bool) (rest : List Char) :
    readUnsigned? negative (first :: rest) =
      (readScientific? (first :: rest)).map (ofScientific negative) := by
  have lower : first.toLower = first := by
    apply dif_neg
    rintro ⟨letter, -⟩
    have above : 65 ≤ first.toNat := letter
    have below := (Number.toNat_of_isDigit digit).2
    omega
  unfold readUnsigned?
  rw [List.map_cons, lower]
  split
  · next word => exact absurd (List.cons.inj word).1 (Number.ne_of_isDigit digit rfl)
  · next word => exact absurd (List.cons.inj word).1 (Number.ne_of_isDigit digit rfl)
  · next word => exact absurd (List.cons.inj word).1 (Number.ne_of_isDigit digit rfl)
  · rfl

/-- A signed number is read as a binary number by its digits and its scale. -/
theorem read?_signed (digit : first.isDigit) (marks : ∀ c ∈ first :: rest, IsMark c)
    (negative : Bool) :
    read? (Decimal.signText negative ++ first :: rest) =
      (readScientific? (first :: rest)).map (ofScientific negative) := by
  have signed := isMark_of_mem_signed marks negative
  have ascii : (Decimal.signText negative ++ first :: rest).mapM Number.asciiDigit? =
      some (Decimal.signText negative ++ first :: rest) := by
    have cleaned := Decimal.cleaned_of_marks signed
    rwa [Text.trim_of_no_blank fun c among => (signed c among).plain.1,
      List.filter_eq_self.mpr fun c among => decide_eq_true (signed c among).plain.2.1] at cleaned
  have joined := joinDigits?_eq_some (fun c among => (signed c among).plain.2.1)
    (by decide : ' ' ≠ '_')
  rw [read?, Number.withoutMargins_of_marks signed, ascii]
  simp only [Option.bind_eq_bind, Option.bind_some, joined, splitSign_signed digit,
    readUnsigned?_of_isDigit digit]

/-- What is read as a decimal number is read as a binary one by rounding it. -/
theorem read?_of_decimal (digit : first.isDigit) (marks : ∀ c ∈ first :: rest, IsMark c)
    {negative : Bool} {d : Decimal}
    (h : Decimal.read? (Decimal.signText negative ++ first :: rest) = some d) :
    ∃ coefficient exponent, d = .finite negative coefficient exponent ∧
      read? (Decimal.signText negative ++ first :: rest) =
        some (ofScientific negative ⟨coefficient, exponent⟩) := by
  rw [Decimal.read?_signed digit marks] at h
  obtain ⟨n, spelled, limits⟩ := Option.bind_eq_some_iff.mp h
  refine ⟨n.coefficient, n.exponent, ?_, ?_⟩
  · unfold Decimal.ofScientific? at limits
    split at limits
    · cases limits
      rfl
    · cases limits
  · rw [read?_signed digit marks, spelled]
    rfl

end Binary64

end Marks

namespace Number

/-- A padded number consists of digits. -/
theorem areDigits_padded (width n : Nat) : AreDigits (padded width n) := by
  refine AreDigits.append ?_ (areDigits_digits n)
  intro c among
  rw [(List.mem_replicate.mp among).2]
  rfl

/-- A padded number is read as the number. -/
theorem readExponent?_padded (letter : Char) (among : letter = 'e' ∨ letter = 'E') (width : Nat)
    (exponent : Int) :
    readExponent? (letter :: (if exponent < 0 then '-' else '+') ::
      padded width exponent.natAbs) = some exponent := by
  have nothing : ∀ c ∈ ([] : List Char).head?, c.isDigit = false := nofun
  have all := spanDigits_append (areDigits_padded width exponent.natAbs) nothing
  have value : ofDigitValues (digitValues (padded width exponent.natAbs)) = exponent.natAbs := by
    rw [padded, ofDigitValues_zeros, ofDigitValues_digits]
  obtain ⟨d, ds, some_digit⟩ : ∃ d ds, digitValues (padded width exponent.natAbs) = d :: ds := by
    refine List.exists_cons_of_ne_nil ?_
    simp [digitValues, padded, digits_ne_nil]
  rw [some_digit] at value
  rw [List.append_nil, some_digit] at all
  have isLetter : (letter = 'e' || letter = 'E') = true := by simpa using among
  rw [readExponent?, if_pos isLetter]
  by_cases negative : exponent < 0
  · rw [if_pos negative]
    simp only [splitSign, all, value, if_true, Option.some.injEq]
    omega
  · rw [if_neg negative]
    simp only [splitSign, all, value, Bool.false_eq_true, if_false, Option.some.injEq]
    omega

end Number

namespace Binary64

/-- The value that the text of a finite magnitude spells. -/
def spelledValue (significand : Nat) (exponent : Int) : ℚ :=
  if significand = 0 then 0
  else (shortest significand exponent).1 * 10 ^ (shortest significand exponent).2

/-- A text is the one of a number in JSON with a point or a power of ten, and it spells a decimal
number. -/
structure Spells (text : List Char) (coefficient : Nat) (power : Int) : Prop where
  /-- The text has the parts of a number, of which the last two are not both empty. -/
  parts : ∃ whole fraction exponent, Json.AreParts whole fraction exponent ∧
    text = whole ++ (fraction ++ exponent) ∧ (fraction.isEmpty && exponent.isEmpty) = false
  /-- It is read as the decimal number. -/
  read : readScientific? text = some ⟨coefficient, power⟩

/-- A numeral with a fraction spells its number. -/
theorem spells_of_numeral {n : Numeral} {coefficient : Nat} {power : Int}
    (fraction : n.fraction ≠ []) (spelled : n.scientific = ⟨coefficient, power⟩) :
    Spells n.chars coefficient power where
  parts := by
    refine ⟨n.whole, n.fractionText, n.exponentPart, Json.areParts n, rfl, ?_⟩
    rw [Numeral.fractionText, if_neg fraction]
    rfl
  read := by rw [n.readScientific?_chars, spelled]

section Forms

variable {m : Nat}

/-- Digits with the point in front of them or among them spell their number. -/
theorem spells_pointed {power : Int} (fractional : power < 0) :
    Spells (positional (digits m) (power + (digits m).length)) m power := by
  by_cases small : power + (digits m).length ≤ 0
  · obtain ⟨n, text, spelled, fraction⟩ := Decimal.exists_numeral_small small
    have same : positional (digits m) (power + (digits m).length) = n.chars := by
      rw [text, positional, Decimal.pointed, if_pos small, if_pos small]
    rw [same]
    exact spells_of_numeral fraction spelled
  · obtain ⟨n, text, spelled, fraction⟩ :=
      Decimal.exists_numeral_inside (Int.not_le.mp small) fractional
    have inside : ¬((digits m).length : Int) ≤ power + (digits m).length := by omega
    have same : positional (digits m) (power + (digits m).length) = n.chars := by
      rw [text, positional, Decimal.pointed, if_neg small, if_neg small, if_neg inside,
        if_neg inside]
    rw [same]
    exact spells_of_numeral fraction spelled

/-- A whole number is written with a zero after the point. -/
theorem spells_whole (n : Nat) : Spells (digits n ++ ['.', '0']) (10 * n) (-1) := by
  let numeral : Numeral := ⟨digits n, ['0'], none, areDigits_digits n,
    fun c among => by rw [List.mem_singleton.mp among]; rfl, digits_ne_nil n, digits_leading n⟩
  have text : numeral.chars = digits n ++ ['.', '0'] := rfl
  have value : ofDigitValues (digitValues (digits n ++ ['0'])) = 10 * n := by
    rw [digitValues, List.map_append, List.map_cons, List.map_nil, ofDigitValues_concat]
    have spelled := ofDigitValues_digits n
    rw [digitValues] at spelled
    rw [spelled]
    rfl
  rw [← text]
  exact spells_of_numeral (List.cons_ne_nil _ _) (Numeral.scientific_eq value rfl)

/-- Digits with the point behind them spell a whole number. -/
theorem spells_filled (positive : 0 < m) (power : Nat) :
    Spells (positional (digits m) (power + (digits m).length)) (10 * (m * pow10 power)) (-1) := by
  have notSmall : ¬((power : Int) + (digits m).length ≤ 0) := by
    have := List.length_pos_iff.mpr (digits_ne_nil m)
    omega
  have whole : ((digits m).length : Int) ≤ power + (digits m).length := by omega
  have zeros : ((power : Int) + (digits m).length - (digits m).length).toNat = power := by omega
  rw [positional, if_neg notSmall, if_pos whole, zeros, ← digits_mul_pow10 positive]
  exact spells_whole _

/-- Digits with a power of ten spell their number. -/
theorem spells_exponential (m : Nat) (power : Int) :
    Spells (exponential (digits m) (power + (digits m).length - 1)) m power := by
  have all := areDigits_digits m
  have value := ofDigitValues_digits m
  generalize exact : power + (digits m).length - 1 = x
  cases spelled : digits m with
  | nil => exact absurd spelled (digits_ne_nil m)
  | cons first others =>
    rw [spelled] at all value exact
    have lead : [first] = ['0'] ∨ [first].head? ≠ some '0' := by
      by_cases zero : first = '0'
      · exact .inl (by rw [zero])
      · exact .inr (by simpa using zero)
    let numeral : Numeral := ⟨[first], others, none, all.of_subset (by simp),
      all.of_subset (by simp), by simp, lead⟩
    let suffix : List Char := 'e' :: (if x < 0 then '-' else '+') :: padded 2 x.natAbs
    have text : exponential (first :: others) x =
        numeral.whole ++ (numeral.fractionText ++ suffix) := by
      cases others <;> rfl
    have apart : ∀ c ∈ suffix.head?, c.isDigit = false ∧ c ≠ '.' := by
      intro c among
      cases among
      decide
    have read := numeral.readScientific?_append apart (readExponent?_padded 'e' (.inl rfl) 2 x)
    refine ⟨⟨numeral.whole, numeral.fractionText, suffix, ?_, text, ?_⟩, ?_⟩
    · have parts := Json.areParts numeral
      refine ⟨parts.digits, parts.nonempty, parts.leading, parts.fractional, .inr
        ⟨'e', [if x < 0 then '-' else '+'], padded 2 x.natAbs, by simp, ?_,
          areDigits_padded 2 _, ?_, rfl⟩⟩
      · split <;> simp
      · simp [padded, digits_ne_nil]
    · rw [Bool.and_comm]
      rfl
    · rw [text, read]
      simp only [List.length_cons] at exact
      have scale : x - (others.length : Int) = power := by omega
      simp only [numeral, List.singleton_append, value, scale]

end Forms

/-- Zeros at the end are left out. -/
theorem dropZeros_digits {m : Nat} (noZero : m % 10 ≠ 0) (k : Nat) :
    ((digits (m * pow10 k)).reverse.dropWhile (· = '0')).reverse = digits m := by
  have positive : 0 < m := by omega
  have last := getLast?_digits noZero
  rw [digits_mul_pow10 positive, List.reverse_append, List.reverse_replicate,
    List.dropWhile_append_of_pos, ← List.head?_reverse] at *
  · cases shape : (digits m).reverse with
    | nil => exact absurd (List.reverse_eq_nil_iff.mp shape) (digits_ne_nil m)
    | cons c rest =>
      rw [shape] at last
      rw [List.dropWhile_cons_of_neg (by simpa using last), ← shape, List.reverse_reverse]
  · intro c among
    rw [(List.mem_replicate.mp among).2]
    rfl

/-- A positive decimal number is written by its digits without the zeros at their end. -/
theorem exists_spells_shortest {m k : Nat} {power : Int} (noZero : m % 10 ≠ 0) :
    let place := power + (digits (m * pow10 k)).length
    let kept := ((digits (m * pow10 k)).reverse.dropWhile (· = '0')).reverse
    ∃ coefficient exponent,
      Spells (if minPlace ≤ place && decide (place ≤ maxPlace) then positional kept place
        else exponential kept (place - 1)) coefficient exponent ∧
      (coefficient * 10 ^ exponent : ℚ) = (m * pow10 k : Nat) * 10 ^ power ∧
      min (power + k) (-1) ≤ exponent ∧
      Decimal.leadingExponent coefficient exponent = place - 1 := by
  intro place kept
  have positive : 0 < m := by omega
  have keeps : kept = digits m := dropZeros_digits noZero k
  have shift : place = power + k + (digits m).length := by
    simp only [place, digits_mul_pow10 positive, List.length_append, List.length_replicate]
    omega
  have ten : (10 : ℚ) ≠ 0 := by norm_num
  have value : (m : ℚ) * 10 ^ (power + k) = (m * pow10 k : Nat) * 10 ^ power := by
    rw [Nat.cast_mul, cast_pow10, zpow_add₀ ten, zpow_natCast]
    ring
  have leading : Decimal.leadingExponent m (power + k) = place - 1 := by
    rw [Decimal.leadingExponent, digitCount, shift]
  rw [keeps, shift] at *
  split
  · by_cases fractional : power + k < 0
    · exact ⟨m, power + k, spells_pointed fractional, value, by omega, leading⟩
    · obtain ⟨whole, same⟩ := Int.eq_ofNat_of_zero_le (Int.not_lt.mp fractional)
      rw [same] at value leading ⊢
      refine ⟨10 * (m * pow10 whole), -1, spells_filled positive whole, ?_, by omega, ?_⟩
      · rw [← value, zpow_natCast, Nat.cast_mul, Nat.cast_mul, cast_pow10]
        push_cast
        rw [zpow_neg_one]
        field_simp
      · rw [← leading, Decimal.leadingExponent, Decimal.leadingExponent,
          Nat.mul_left_comm, ← pow10_succ, digitCount_mul_pow10 positive]
        omega
  · exact ⟨m, power + k, spells_exponential m _, value, by omega, leading⟩

/-- The text of a finite magnitude is the one of a number in JSON. It spells a decimal number within
the limits, whose value is the one of the shortest decimal. -/
theorem exists_spells {significand : Nat} {exponent : Int}
    (formed : IsFormed significand exponent) :
    ∃ coefficient power, Spells (magnitudeText significand exponent) coefficient power ∧
      (coefficient * 10 ^ power : ℚ) = spelledValue significand exponent ∧
      Decimal.leadingExponent coefficient power ≤ Decimal.exponentLimit ∧
      Decimal.quantumLimit ≤ power := by
  by_cases zero : significand = 0
  · rw [magnitudeText, spelledValue, if_pos zero, if_pos zero]
    exact ⟨10 * 0, -1, spells_whole 0, by norm_num, by decide, by decide⟩
  have found := isShortest_shortest formed (Nat.pos_of_ne_zero zero)
  obtain ⟨low, high⟩ := value_bounds formed (Nat.pos_of_ne_zero zero)
  obtain ⟨low', high'⟩ := leadingDigit_bounds formed (Nat.pos_of_ne_zero zero)
  have ten : (1 : ℚ) < 10 := by norm_num
  have above : -400 < leadingDigit (interval significand exponent) + 1 :=
    (zpow_lt_zpow_iff_right₀ ten).mp (lt_of_le_of_lt low high')
  have below : leadingDigit (interval significand exponent) < 400 :=
    (zpow_lt_zpow_iff_right₀ ten).mp (lt_of_le_of_lt low' high)
  obtain ⟨positive, -, few, fine, coarse, -⟩ := found
  rw [magnitudeText, spelledValue, if_neg zero, if_neg zero]
  generalize shortest significand exponent = found at *
  obtain ⟨n, power⟩ := found
  dsimp only at *
  -- the digits without the zeros at their end
  obtain ⟨k, m, noFactor, split⟩ :=
    Nat.exists_eq_pow_mul_and_not_dvd positive.ne' 10 (by decide)
  obtain rfl : n = m * pow10 k := by rw [split, Nat.mul_comm, pow10, Nat.pow_eq]
  have noZero : m % 10 ≠ 0 := fun zero => noFactor (Nat.dvd_of_mod_eq_zero zero)
  obtain ⟨coefficient, scale, spells, value, least, leading⟩ :=
    @exists_spells_shortest m k power noZero
  have count : digitCount (m * pow10 k) ≤ 18 := by
    refine (digitCount_le_iff (by decide)).mpr (lt_of_le_of_lt few ?_)
    decide
  rw [digitCount] at count
  refine ⟨coefficient, scale, spells, value, ?_, ?_⟩
  · rw [leading, Decimal.exponentLimit]
    omega
  · rw [Decimal.quantumLimit]
    omega

/-- The text of a finite number is read as a decimal number of the value that it spells. -/
theorem exists_read?_chars {significand : Nat} {exponent : Int}
    (formed : IsFormed significand exponent) (negative : Bool) :
    ∃ coefficient power,
      Decimal.read? (chars (.finite negative significand exponent)) =
        some (.finite negative coefficient power) ∧
      (coefficient * 10 ^ power : ℚ) = spelledValue significand exponent := by
  obtain ⟨coefficient, power, spells, value, high, low⟩ := exists_spells formed
  obtain ⟨whole, fraction, scale, parts, text, -⟩ := spells.parts
  have marks := parts.marks
  obtain ⟨first, others, rfl⟩ := List.exists_cons_of_ne_nil parts.nonempty
  have digit : first.isDigit := parts.digits first List.mem_cons_self
  rw [List.cons_append] at text marks
  have limits : Decimal.ofScientific? negative ⟨coefficient, power⟩ =
      some (.finite negative coefficient power) := by
    rw [Decimal.ofScientific?, if_pos]
    simpa using ⟨high, low⟩
  have signed := Decimal.read?_signed digit marks negative
  rw [← text, spells.read] at signed
  exact ⟨coefficient, power, by rw [← limits]; exact signed, value⟩

end Binary64

end Stencil
