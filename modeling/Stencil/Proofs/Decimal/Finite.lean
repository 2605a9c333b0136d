import Stencil.Decimal.Arithmetic
import Stencil.Proofs.Decimal.Text
import Stencil.Proofs.Number.Integer

/-!
# Finite decimal numbers

Finite numbers have finite sums and quotients; where a result would be too large, the operation is
trapped instead. A text with a point is read as a finite number, for the words of the other numbers
hold no point; a text with a character that stands in no number is not read at all.

The exponents of whatever is read from a text or calculated lie within the limits of a text, so a
finite number of either origin can be read back from its own text. Rounding raises the exponent of
the leading digit by one at most.
-/

namespace Stencil.Decimal

/-- The integer as a decimal number is finite. -/
theorem isFinite_ofInt (n : Int) : (ofInt n).isFinite := rfl

/-- A finite number is a sign, a coefficient and an exponent. -/
theorem exists_of_isFinite {d : Decimal} (finite : d.isFinite) :
    ∃ negative coefficient exponent, d = .finite negative coefficient exponent := by
  cases d with
  | finite negative coefficient exponent => exact ⟨negative, coefficient, exponent, rfl⟩
  | _ => cases finite

section Arithmetic

variable {negative negative' : Bool} {coefficient coefficient' : Nat} {exponent exponent' : Int}
variable {d : Decimal}

/-- A rounded result is finite. -/
theorem isFinite_settle (h : settle negative coefficient exponent = .ok d) : d.isFinite := by
  unfold settle at h
  dsimp only at h
  repeat' split at h
  all_goals
    cases h
    try rfl

/-- The sum of aligned numbers is finite. -/
theorem isFinite_addAligned
    (h : addAligned negative coefficient exponent negative' coefficient' exponent' = .ok d) :
    d.isFinite := by
  unfold addAligned at h
  dsimp only at h
  split at h
  · exact isFinite_settle h
  · exact isFinite_settle h

/-- The sum of finite numbers is finite. -/
theorem isFinite_add {a b : Decimal} (first : a.isFinite) (second : b.isFinite)
    (h : a.add b = .ok d) : d.isFinite := by
  obtain ⟨negative, coefficient, exponent, rfl⟩ := exists_of_isFinite first
  obtain ⟨negative', coefficient', exponent', rfl⟩ := exists_of_isFinite second
  rw [add] at h
  split at h
  · exact isFinite_addAligned h
  · exact isFinite_addAligned h

/-- The quotient of a finite number is finite. -/
theorem isFinite_divNat {a : Decimal} (first : a.isFinite) {divisor : Nat}
    (h : a.divNat divisor = .ok d) : d.isFinite := by
  obtain ⟨negative, coefficient, exponent, rfl⟩ := exists_of_isFinite first
  rw [divNat] at h
  dsimp only at h
  split at h
  · exact isFinite_settle h
  · split at h
    · exact isFinite_settle h
    · exact isFinite_settle h

end Arithmetic

section Reading

variable {cs : List Char} {d : Decimal} {c : Char}

/-- What is read as digits up to its end holds nothing else. -/
theorem not_mem_of_readPayload? {payload : Nat} (h : readPayload? cs = some payload)
    (noDigit : c.isDigit = false) : c ∉ cs := by
  intro among
  have kept := Number.mem_spanDigits noDigit among
  unfold readPayload? at h
  split at h
  · next spanned =>
    rw [spanned] at kept
    cases kept
  · cases h

/-- The letters of the words for numbers that are not finite. -/
def wordLetters : List Char := ['i', 'n', 'f', 't', 'y', 's', 'a']

/-- An unsigned number with a character that is no digit and does not occur in the words of the
other numbers is read as digits with a point and an exponent. -/
theorem exists_scientific_of_readUnsigned? {negative : Bool} (noDigit : c.isDigit = false)
    (lowered : c.toLower = c) (noLetter : c ∉ wordLetters) (among : c ∈ cs)
    (h : readUnsigned? negative cs = some d) :
    ∃ n, Number.readScientific? cs = some n ∧ ofScientific? negative n = some d := by
  have inside : c ∈ cs.map Char.toLower := List.mem_map.mpr ⟨c, among, lowered⟩
  have notInWord (word : List Char) {payload : List Char} (sub : word ⊆ wordLetters)
      (digits : c ∉ payload) : c ∉ word ++ payload := by
    intro either
    rcases List.mem_append.mp either with first | later
    · exact noLetter (sub first)
    · exact digits later
  unfold readUnsigned? at h
  -- the words first, none of which holds the character
  split at h
  · next word =>
    rw [word] at inside
    exact absurd inside (notInWord ['i', 'n', 'f'] (by simp [wordLetters]) List.not_mem_nil)
  · next word =>
    rw [word] at inside
    exact absurd inside (notInWord ['i', 'n', 'f', 'i', 'n', 'i', 't', 'y']
      (by simp [wordLetters]) List.not_mem_nil)
  · next payload word =>
    obtain ⟨n, read, -⟩ := Option.map_eq_some_iff.mp h
    rw [word] at inside
    exact absurd inside (notInWord ['n', 'a', 'n'] (by simp [wordLetters])
      (not_mem_of_readPayload? read noDigit))
  · next payload word =>
    obtain ⟨n, read, -⟩ := Option.map_eq_some_iff.mp h
    rw [word] at inside
    exact absurd inside (notInWord ['s', 'n', 'a', 'n'] (by simp [wordLetters])
      (not_mem_of_readPayload? read noDigit))
  · exact Option.bind_eq_some_iff.mp h

/-- A visible ASCII character that is neither an underscore nor a sign stands in the number that
follows the sign. -/
theorem exists_unsigned_of_read? (ascii : c.toNat < 128) (visible : Text.isBlank c = false)
    (noUnderscore : c ≠ '_') (noSign : c ≠ '-' ∧ c ≠ '+') (among : c ∈ cs)
    (h : read? cs = some d) :
    ∃ negative body, c ∈ body ∧ readUnsigned? negative body = some d := by
  obtain ⟨plain, cleaned, h⟩ := Option.bind_eq_some_iff.mp h
  have kept : c ∈ (Text.trim cs).filter (· ≠ '_') :=
    List.mem_filter.mpr ⟨Text.mem_trim visible among, decide_eq_true noUnderscore⟩
  have inside := Number.mem_of_mapM_asciiDigit? ascii cleaned kept
  exact ⟨_, _, Number.mem_splitSign noSign inside, h⟩

/-- A text with a point is read as a finite number. -/
theorem isFinite_of_read? (point : '.' ∈ cs) (h : read? cs = some d) : d.isFinite := by
  obtain ⟨negative, body, inside, unsigned⟩ := exists_unsigned_of_read? (by decide) (by decide)
    (by decide) (by decide) point h
  obtain ⟨n, -, limits⟩ := exists_scientific_of_readUnsigned? (by decide) (by decide)
    (by decide) inside unsigned
  have admitted := isAdmitted_of_ofScientific? limits
  cases d with
  | finite => rfl
  | _ => cases admitted

/-- A foreign character is neither changed to lower case nor part of a word. -/
theorem plain_of_isForeign (foreign : Number.IsForeign c) :
    c.toLower = c ∧ c ∉ wordLetters := by
  refine ⟨dif_neg ?_, fun spelled => ?_⟩
  · rintro ⟨low, high⟩
    have upper : c.isUpper := decide_eq_true ⟨low, high⟩
    have letter : c.isAlpha := Bool.or_eq_true_iff.mpr (.inl upper)
    have word : c.isAlphanum := Bool.or_eq_true_iff.mpr (.inl letter)
    rw [foreign.symbol] at word
    cases word
  · have letters : ∀ letter ∈ wordLetters, letter.isAlphanum := by
      simp only [wordLetters, List.forall_mem_cons, List.not_mem_nil, false_implies, implies_true,
        and_true]
      decide
    exact foreign.ne_of_isAlphanum (letters c spelled) rfl

/-- A text with a foreign character is read as no number. -/
theorem read?_eq_none (foreign : Number.IsForeign c) (among : c ∈ cs) : read? cs = none := by
  cases h : read? cs with
  | none => rfl
  | some d =>
    have noUnderscore : c ≠ '_' := fun same => foreign.unmarked (by simp [same])
    obtain ⟨lowered, noLetter⟩ := plain_of_isForeign foreign
    obtain ⟨negative, body, inside, unsigned⟩ := exists_unsigned_of_read? foreign.ascii
      foreign.visible noUnderscore foreign.noSign among h
    obtain ⟨n, read, -⟩ := exists_scientific_of_readUnsigned? foreign.noDigit lowered noLetter
      inside unsigned
    rw [foreign.readScientific?_eq_none inside] at read
    cases read

end Reading

end Stencil.Decimal

namespace Stencil.Decimal

/-- A number that is within the limits if it is finite at all. -/
def IsWithin : Decimal → Prop
  | .finite negative coefficient exponent => (finite negative coefficient exponent).IsAdmitted
  | _ => True

/-- A number within the limits as finite numbers are is within them. -/
theorem IsAdmitted.isWithin {d : Decimal} (admitted : d.IsAdmitted) : d.IsWithin := by
  cases d with
  | finite => exact admitted
  | _ => trivial

section Rounding

variable {negative : Bool} {coefficient places : Nat} {exponent : Int} {d : Decimal}

/-- Rounding a quotient raises it by one at most. -/
theorem roundHalfEven_le_succ (n divisor : Nat) :
    Number.roundHalfEven n divisor ≤ n / divisor + 1 := by
  unfold Number.roundHalfEven
  dsimp only
  repeat' split
  all_goals omega

/-- A number of some digits, rounded to fewer of them, has one digit too many at most. -/
theorem digitCount_dropDigits_le {count : Int}
    (length : (Number.digitCount coefficient : Int) ≤ count + places) (some_left : 0 < places) :
    Number.digitCount (dropDigits coefficient count) ≤ places + 1 := by
  unfold dropDigits
  split
  · exact (Number.digitCount_le_iff (Nat.succ_pos places)).mpr (Number.pow10_pos _)
  · next enough =>
    have most := roundHalfEven_le_succ coefficient (Number.pow10 count.toNat)
    have small : coefficient / Number.pow10 count.toNat < Number.pow10 places := by
      rw [Nat.div_lt_iff_lt_mul (Number.pow10_pos _)]
      have below : coefficient < Number.pow10 (places + count.toNat) :=
        (Number.digitCount_le_iff (by omega)).mp (by omega)
      rwa [Number.pow10, Nat.pow_eq, Nat.pow_add] at below
    refine (Number.digitCount_le_iff (Nat.succ_pos places)).mpr ?_
    have positive := Number.pow10_pos places
    rw [Number.pow10_succ]
    omega

/-- A number of few digits with an exponent in the range of calculations is within the limits. -/
theorem isAdmitted_of_range (few : Number.digitCount coefficient ≤ precision + 1)
    (low : minQuantum ≤ exponent) (high : exponent ≤ maxExponent + 1) :
    (finite negative coefficient exponent).IsAdmitted := by
  simp only [precision, minQuantum, minExponent, maxExponent] at few low high
  simp only [IsAdmitted, leadingExponent, exponentLimit, quantumLimit]
  omega

/-- A rounded result is within the limits. -/
theorem isAdmitted_settle (h : settle negative coefficient exponent = .ok d) : d.IsAdmitted := by
  have one : Number.digitCount 0 = 1 := by decide
  have some : 0 < Number.digitCount coefficient := Nat.length_toDigits_pos
  unfold settle at h
  dsimp only at h
  split at h
  · cases h
    refine isAdmitted_of_range (by rw [one]; decide) (by omega) ?_
    simp only [minQuantum, minExponent, maxExponent, precision]
    omega
  split at h
  · cases h
  next notAbove =>
  simp only [leadingExponent, maxExponent] at notAbove
  split at h
  · next tiny =>
    simp only [leadingExponent, minExponent] at tiny
    -- near zero the exponent is raised to the least one
    split at h
    · cases h
      refine isAdmitted_of_range (digitCount_dropDigits_le ?_ (by decide)) (by omega) (by decide)
      simp only [minQuantum, minExponent, precision]
      omega
    · next notBelow =>
      cases h
      simp only [minQuantum, minExponent, precision] at notBelow
      refine isAdmitted_of_range ?_ ?_ ?_
      all_goals simp only [minQuantum, minExponent, maxExponent, precision]; omega
  next notTiny =>
  simp only [leadingExponent, minExponent] at notTiny
  split at h
  · next short =>
    cases h
    simp only [precision] at short
    refine isAdmitted_of_range ?_ ?_ ?_
    all_goals simp only [minQuantum, minExponent, maxExponent, precision]; omega
  next long =>
  simp only [precision] at long
  split at h
  · split at h
    · cases h
    next within =>
    cases h
    simp only [leadingExponent, maxExponent] at within
    refine isAdmitted_of_range (by decide) ?_ ?_
    all_goals simp only [minQuantum, minExponent, maxExponent, precision]; omega
  · cases h
    refine isAdmitted_of_range (digitCount_dropDigits_le ?_ (by decide)) ?_ ?_
    all_goals simp only [minQuantum, minExponent, maxExponent, precision]; omega

end Rounding

section Arithmetic

variable {a b d : Decimal}

/-- The sum of aligned numbers is within the limits. -/
theorem isAdmitted_addAligned {negative negative' : Bool} {coefficient coefficient' : Nat}
    {exponent exponent' : Int}
    (h : addAligned negative coefficient exponent negative' coefficient' exponent' = .ok d) :
    d.IsAdmitted := by
  unfold addAligned at h
  dsimp only at h
  split at h
  · exact isAdmitted_settle h
  · exact isAdmitted_settle h

/-- Whatever is added, the sum is within the limits. -/
theorem isWithin_add (h : a.add b = .ok d) : d.IsWithin := by
  unfold add at h
  split at h
  case h_8 =>
    split at h
    · exact (isAdmitted_addAligned h).isWithin
    · exact (isAdmitted_addAligned h).isWithin
  case h_5 =>
    split at h
    · cases h
      trivial
    · cases h
  all_goals
    cases h
    try trivial

/-- Whatever is divided, the quotient is within the limits. -/
theorem isWithin_divNat {divisor : Nat} (h : a.divNat divisor = .ok d) : d.IsWithin := by
  unfold divNat at h
  split at h
  · cases h
  · cases h
    trivial
  · cases h
    trivial
  · dsimp only at h
    split at h
    · exact (isAdmitted_settle h).isWithin
    · split at h
      · exact (isAdmitted_settle h).isWithin
      · exact (isAdmitted_settle h).isWithin

/-- An integer that is short enough to be written is within the limits as a decimal number. -/
theorem isWithin_ofInt {n : Int} (short : Number.isLong n = false) : (ofInt n).IsWithin := by
  have below : n.natAbs < Number.pow10 Number.digitLimit := by
    simpa only [Number.isLong, decide_eq_false_iff_not, Nat.not_le] using short
  have digits := (Number.digitCount_le_iff (by decide)).mpr below
  simp only [Number.digitLimit] at digits
  simp only [ofInt, IsWithin, IsAdmitted, leadingExponent, exponentLimit, quantumLimit]
  omega

/-- Whatever is read from a text is within the limits. -/
theorem isWithin_of_read? {cs : List Char} (h : read? cs = some d) : d.IsWithin := by
  obtain ⟨plain, -, h⟩ := Option.bind_eq_some_iff.mp h
  dsimp only at h
  unfold readUnsigned? at h
  split at h
  · cases h
    trivial
  · cases h
    trivial
  · obtain ⟨payload, -, rfl⟩ := Option.map_eq_some_iff.mp h
    trivial
  · obtain ⟨payload, -, rfl⟩ := Option.map_eq_some_iff.mp h
    trivial
  · obtain ⟨n, -, limits⟩ := Option.bind_eq_some_iff.mp h
    exact (isAdmitted_of_ofScientific? limits).isWithin

end Arithmetic

end Stencil.Decimal
