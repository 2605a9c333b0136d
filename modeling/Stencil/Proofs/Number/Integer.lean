import Stencil.Proofs.Number.Numeral

/-!
# The text of an integer

An integer that is short enough to be written is read back from its text.

Reading a number goes through every character of its text but the blanks around it. A text that
holds a foreign character is therefore read as no number at all.
-/

namespace Stencil.Number

/-- A digit has its value. -/
theorem digitValue?_of_isDigit {c : Char} (digit : c.isDigit) :
    Text.digitValue? c = some (c.toNat - 48) := by
  have ascii : c.toNat < 128 := by
    have upper := (toNat_of_isDigit digit).2
    omega
  rw [Text.digitValue?, if_pos ascii, if_pos digit]

/-- A run of digits is read as their values. -/
theorem digitRun?_digits {ds : List Char} (all : AreDigits ds) (nonempty : ds ≠ []) :
    digitRun? ds = some (digitValues ds) := by
  induction ds with
  | nil => exact absurd rfl nonempty
  | cons c ds ih =>
    have value := digitValue?_of_isDigit (all c List.mem_cons_self)
    have others := all.of_subset (List.subset_cons_self c ds)
    cases ds with
    | nil =>
      rw [digitRun?, value]
      rfl
    | cons d ds =>
      have digit : d.isDigit := others d List.mem_cons_self
      rw [digitRun?, value]
      dsimp only
      split
      · next word => cases word
      · next word => exact absurd (List.cons.inj word).1 (ne_of_isDigit digit rfl)
      · rw [ih others (List.cons_ne_nil d ds)]
        rfl

/-- No margin is visible. -/
theorem isMargin_of_not_isBlank {c : Char} (visible : Text.isBlank c = false) :
    isMargin c = false := by
  rw [Bool.eq_false_iff]
  intro margin
  rw [isBlank_of_isMargin margin] at visible
  cases visible

/-- A text of marks has no margins. -/
theorem withoutMargins_of_marks {text : List Char} (marks : ∀ c ∈ text, IsMark c) :
    withoutMargins text = text := by
  have noMargin : ∀ c ∈ text, isMargin c = false :=
    fun c hc => isMargin_of_not_isBlank (marks c hc).plain.1
  have keeps (cs : List Char) (plain : ∀ c ∈ cs, isMargin c = false) :
      cs.dropWhile isMargin = cs := by
    cases cs with
    | nil => rfl
    | cons c cs => rw [List.dropWhile_cons_of_neg (by simp [plain c List.mem_cons_self])]
  rw [withoutMargins, keeps text noMargin, keeps, List.reverse_reverse]
  intro c hc
  exact noMargin c (List.mem_reverse.mp hc)

/-- The marks of the text of an integer. -/
theorem isMark_of_mem_intText {n : Int} {c : Char} (h : c ∈ intText n) : IsMark c := by
  unfold intText at h
  split at h
  · rcases List.mem_cons.mp h with rfl | h
    · exact .inr (by simp)
    · exact .inl (areDigits_digits _ c h)
  · exact .inl (areDigits_digits _ c h)

/-- Digits carry no sign. -/
theorem splitSign_digits (n : Nat) : splitSign (digits n) = (false, digits n) := by
  obtain ⟨d, ds, split⟩ := List.exists_cons_of_ne_nil (digits_ne_nil n)
  have digit : d.isDigit := areDigits_digits n d (by simp [split])
  rw [split]
  exact splitSign_of_isDigit ds digit

/-- The text of a short integer is read as the integer. -/
theorem readInteger?_intText {n : Int} (short : isLong n = false) :
    readInteger? (intText n) = some n := by
  have fits : ¬digitLimit < (digitValues (digits n.natAbs)).length := by
    have below : n.natAbs < pow10 digitLimit := by
      rw [isLong, decide_eq_false_iff_not] at short
      exact Nat.lt_of_not_le short
    have count := (digitCount_le_iff (by decide : 0 < digitLimit)).mpr below
    rw [digitValues, List.length_map]
    exact Nat.not_lt_of_le count
  have run := digitRun?_digits (areDigits_digits n.natAbs) (digits_ne_nil n.natAbs)
  have value := ofDigitValues_digits n.natAbs
  rw [readInteger?, withoutMargins_of_marks fun c hc => isMark_of_mem_intText hc]
  unfold intText
  by_cases negative : n < 0
  · rw [if_pos negative]
    simp only [splitSign, run, fits, value, if_true, if_false, Option.some.injEq]
    omega
  · rw [if_neg negative, splitSign_digits]
    simp only [run, fits, value, Bool.false_eq_true, if_false, Option.some.injEq]
    omega

/-- The values in a run of digits are those of digits. -/
theorem digitRun?_lt {cs : List Char} {ds : List Nat} (run : digitRun? cs = some ds) :
    ∀ d ∈ ds, d < 10 := by
  induction cs using digitRun?.induct generalizing ds with
  | case1 => cases run
  | case2 c rest noDigit =>
    rw [digitRun?, noDigit] at run
    cases run
  | case3 c v digit =>
    rw [digitRun?, digit] at run
    cases run
    intro d among
    rw [List.mem_singleton.mp among]
    exact Text.digitValue?_lt digit
  | case4 c v digit next ih =>
    rw [digitRun?, digit] at run
    obtain ⟨others, rest, rfl⟩ := Option.map_eq_some_iff.mp run
    exact List.forall_mem_cons.mpr ⟨Text.digitValue?_lt digit, ih rest⟩
  | case5 c v digit next notEmpty notMark ih =>
    rw [digitRun?, digit] at run
    dsimp only at run
    split at run
    · exact (notEmpty rfl).elim
    · exact (notMark _ rfl).elim
    · obtain ⟨others, rest, rfl⟩ := Option.map_eq_some_iff.mp run
      exact List.forall_mem_cons.mpr ⟨Text.digitValue?_lt digit, ih rest⟩

/-- No integer that is read is too long. -/
theorem isLong_of_readInteger? {cs : List Char} {n : Int} (h : readInteger? cs = some n) :
    isLong n = false := by
  unfold readInteger? at h
  dsimp only at h
  split at h
  · cases h
  · next ds run =>
    split at h
    · cases h
    · next short =>
      have value := ofDigitValues_lt (digitRun?_lt run)
      have limit := pow10_le_pow10 (Nat.le_of_not_lt short)
      have fits := Nat.lt_of_lt_of_le value limit
      refine isLong_eq_false ?_
      cases h
      split
      · rwa [Int.natAbs_neg, Int.natAbs_natCast]
      · rwa [Int.natAbs_natCast]

/-- The digits of an integer that is too long are not read. -/
theorem readInteger?_digits_of_isLong {n : Nat} (long : isLong n = true) :
    readInteger? (digits n) = none := by
  have exceeds : digitLimit < (digitValues (digits n)).length := by
    rw [digitValues, List.length_map]
    rw [isLong, Int.natAbs_natCast, decide_eq_true_eq] at long
    have above := mt (digitCount_le_iff (by decide)).mp (Nat.not_lt_of_le long)
    exact Nat.lt_of_not_le above
  have run := digitRun?_digits (areDigits_digits n) (digits_ne_nil n)
  rw [readInteger?, withoutMargins_of_marks fun c hc => .inl (areDigits_digits n c hc),
    splitSign_digits]
  simp only [run, exceeds, if_true]

/-- A character is neither a blank, nor a letter, a digit, a sign, a point or an underscore. -/
structure IsForeign (c : Char) : Prop where
  /-- It is an ASCII character. -/
  ascii : c.toNat < 128
  /-- It is no blank. -/
  visible : Text.isBlank c = false
  /-- It is neither a letter nor a digit. -/
  symbol : c.isAlphanum = false
  /-- It is no mark of numbers. -/
  unmarked : c ∉ ['_', '.', '+', '-']

/-- A character of a text that is no sign stands after the sign. -/
theorem mem_splitSign {c : Char} {text : List Char} (noSign : c ≠ '-' ∧ c ≠ '+')
    (among : c ∈ text) : c ∈ (splitSign text).2 := by
  unfold splitSign
  split
  · exact (List.mem_cons.mp among).resolve_left noSign.1
  · exact (List.mem_cons.mp among).resolve_left noSign.2
  · exact among

/-- A character of a text that is no digit stands after the digits. -/
theorem mem_spanDigits {c : Char} {text : List Char} (noDigit : c.isDigit = false)
    (among : c ∈ text) : c ∈ (spanDigits text).2 := by
  induction text with
  | nil => cases among
  | cons d rest ih =>
    rw [spanDigits]
    split
    · next digit =>
      rcases List.mem_cons.mp among with rfl | later
      · rw [noDigit] at digit
        cases digit
      · exact ih later
    · exact among

/-- An ASCII character is kept where the digits of all scripts become ASCII digits. -/
theorem mem_of_mapM_asciiDigit? {c : Char} {text plain : List Char} (ascii : c.toNat < 128)
    (h : text.mapM asciiDigit? = some plain) (among : c ∈ text) : c ∈ plain := by
  induction text generalizing plain with
  | nil => cases among
  | cons d rest ih =>
    rw [List.mapM_cons] at h
    obtain ⟨first, found, h⟩ := Option.bind_eq_some_iff.mp h
    obtain ⟨others, more, same⟩ := Option.bind_eq_some_iff.mp h
    cases same
    rcases List.mem_cons.mp among with rfl | later
    · rw [asciiDigit?, if_pos ascii] at found
      cases found
      exact List.mem_cons_self
    · exact List.mem_cons_of_mem first (ih more later)

namespace IsForeign

variable {c : Char}

/-- The at sign is foreign. -/
theorem at_sign : IsForeign '@' := by
  constructor <;> decide

/-- A foreign character is no digit. -/
theorem noDigit (foreign : IsForeign c) : c.isDigit = false := by
  have symbol := foreign.symbol
  rw [Char.isAlphanum, Bool.or_eq_false_iff] at symbol
  exact symbol.2

/-- A foreign character has no value as a digit. -/
theorem digitValue?_eq_none (foreign : IsForeign c) : Text.digitValue? c = none := by
  rw [Text.digitValue?, if_pos foreign.ascii, if_neg]
  simp [foreign.noDigit]

/-- A foreign character is no sign. -/
theorem noSign (foreign : IsForeign c) : c ≠ '-' ∧ c ≠ '+' := by
  have unmarked := foreign.unmarked
  simp only [List.mem_cons, List.not_mem_nil, or_false, not_or] at unmarked
  exact ⟨unmarked.2.2.2, unmarked.2.2.1⟩

/-- A foreign character is no letter. -/
theorem ne_of_isAlphanum (foreign : IsForeign c) {letter : Char} (h : letter.isAlphanum) :
    c ≠ letter := by
  rintro rfl
  rw [foreign.symbol] at h
  cases h

/-- A run of digits holds no foreign character. -/
theorem digitRun?_eq_none (foreign : IsForeign c) {text : List Char} (among : c ∈ text) :
    digitRun? text = none := by
  have noDigit := foreign.digitValue?_eq_none
  have first {d : Char} {v : Nat} (digit : Text.digitValue? d = some v) : c ≠ d := by
    rintro rfl
    rw [noDigit] at digit
    cases digit
  induction text using digitRun?.induct with
  | case1 => rfl
  | case2 d rest none => rw [digitRun?, none]
  | case3 d v digit => exact absurd (List.mem_singleton.mp among) (first digit)
  | case4 d v digit next ih =>
    have mark : c ≠ '_' := fun same => foreign.unmarked (by simp [same])
    have later : c ∈ next := by simpa [first digit, mark] using among
    rw [digitRun?, digit]
    simp [ih later]
  | case5 d v digit next notEmpty notMark ih =>
    have later : c ∈ next := by simpa [first digit] using among
    rw [digitRun?, digit]
    dsimp only
    split
    · exact (notEmpty rfl).elim
    · exact (notMark _ rfl).elim
    · simp [ih later]

/-- A text with a foreign character is no integer. -/
theorem readInteger?_eq_none (foreign : IsForeign c) {text : List Char} (among : c ∈ text) :
    readInteger? text = none := by
  have visible := isMargin_of_not_isBlank foreign.visible
  have start := Text.mem_dropWhile visible among
  have ending := Text.mem_dropWhile visible (List.mem_reverse.mpr start)
  have inside : c ∈ withoutMargins text := List.mem_reverse.mpr ending
  have unsigned := mem_splitSign foreign.noSign inside
  rw [readInteger?]
  simp only [foreign.digitRun?_eq_none unsigned]

/-- A power of ten holds no foreign character. -/
theorem readExponent?_eq_none (foreign : IsForeign c) {text : List Char} (among : c ∈ text) :
    readExponent? text = none := by
  cases text with
  | nil => cases among
  | cons d rest =>
    rw [readExponent?]
    split
    · next letter =>
      have other : c ≠ d := by
        rw [Bool.or_eq_true, decide_eq_true_eq, decide_eq_true_eq] at letter
        rcases letter with rfl | rfl <;> exact foreign.ne_of_isAlphanum (by decide)
      have later := (List.mem_cons.mp among).resolve_left other
      have kept := mem_spanDigits foreign.noDigit (mem_splitSign foreign.noSign later)
      dsimp only
      split
      · rfl
      · next spanned =>
        rw [spanned] at kept
        cases kept
      · rfl
    · rfl

/-- A text with a foreign character is no number with a point and an exponent. -/
theorem readScientific?_eq_none (foreign : IsForeign c) {text : List Char} (among : c ∈ text) :
    readScientific? text = none := by
  have afterWhole := mem_spanDigits foreign.noDigit among
  have noPoint : c ≠ '.' := fun same => foreign.unmarked (by simp [same])
  have last {rest : List Char} (kept : c ∈ rest) {whole fraction : List Nat} :
      (if whole.isEmpty && fraction.isEmpty then none
        else (readExponent? rest).map fun exponent =>
          (⟨ofDigitValues (whole ++ fraction), exponent - fraction.length⟩ : Scientific)) =
        none := by
    rw [foreign.readExponent?_eq_none kept]
    split <;> rfl
  rw [readScientific?]
  dsimp only
  split
  · next more point =>
    rw [point] at afterWhole
    have afterPoint := (List.mem_cons.mp afterWhole).resolve_left noPoint
    exact last (mem_spanDigits foreign.noDigit afterPoint)
  · exact last afterWhole

end IsForeign

end Stencil.Number
