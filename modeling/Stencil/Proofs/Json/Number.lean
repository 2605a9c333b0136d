import Stencil.Json.Printer
import Stencil.Json.Reader
import Stencil.Proofs.Decimal.Text
import Stencil.Proofs.Number.Integer

/-!
# Numbers in JSON text

A written number is a numeral after an optional sign. Reading takes exactly the numeral off the
text, as long as nothing follows that would go on with the number.
-/

namespace Stencil.Json

open Number (Numeral AreDigits IsMark intText)

/-- What may follow a value: nothing, a comma, or what closes a list or an object. -/
def Follows (rest : List Char) : Prop := ∀ c ∈ rest.head?, c ∈ [',', ']', '\x7d']

namespace Follows

variable {rest : List Char}

/-- The end of the text may follow. -/
theorem nil : Follows [] := nofun

/-- A comma and what closes a list or an object may follow. -/
theorem cons {c : Char} (h : c ∈ [',', ']', '\x7d']) (rest : List Char) : Follows (c :: rest) := by
  intro d hd
  cases hd
  exact h

/-- No digit follows. -/
theorem noDigit (follows : Follows rest) : ∀ c ∈ rest.head?, c.isDigit = false := by
  intro c hc
  have mark := follows c hc
  simp only [List.mem_cons, List.not_mem_nil, or_false] at mark
  rcases mark with rfl | rfl | rfl <;> rfl

/-- Neither a point nor an exponent follows. -/
theorem noPart (follows : Follows rest) : ∀ c ∈ rest.head?, c ≠ '.' ∧ c ≠ 'e' ∧ c ≠ 'E' := by
  intro c hc
  have mark := follows c hc
  simp only [List.mem_cons, List.not_mem_nil, or_false] at mark
  rcases mark with rfl | rfl | rfl <;> decide

end Follows

/-- Digits end where another character follows. -/
theorem spanDigits_append {ds rest : List Char} (all : AreDigits ds)
    (ends : ∀ c ∈ rest.head?, c.isDigit = false) : spanDigits (ds ++ rest) = (ds, rest) := by
  have stops : rest.takeWhile Char.isDigit = [] ∧ rest.dropWhile Char.isDigit = rest := by
    cases rest with
    | nil => exact ⟨rfl, rfl⟩
    | cons c rest =>
      have other : ¬c.isDigit := by simp [ends c rfl]
      exact ⟨List.takeWhile_cons_of_neg other, List.dropWhile_cons_of_neg other⟩
  rw [spanDigits, List.takeWhile_append_of_pos all, List.dropWhile_append_of_pos all, stops.1,
    stops.2, List.append_nil]

/-- What may follow a number: nothing that would go on with it. -/
def EndsNumber (rest : List Char) : Prop :=
  ∀ c ∈ rest.head?, c.isDigit = false ∧ c ≠ '.' ∧ c ≠ 'e' ∧ c ≠ 'E'

/-- What may follow a value may follow a number. -/
theorem Follows.endsNumber {rest : List Char} (follows : Follows rest) : EndsNumber rest :=
  fun c hc => ⟨follows.noDigit c hc, follows.noPart c hc⟩

/-- A fraction: nothing, or a point and digits. -/
def IsFraction (text : List Char) : Prop :=
  text = [] ∨ ∃ ds, AreDigits ds ∧ ds ≠ [] ∧ text = '.' :: ds

/-- A power of ten: nothing, or a letter, an optional sign, and digits. -/
def IsExponent (text : List Char) : Prop :=
  text = [] ∨ ∃ letter sign ds, letter ∈ ['e', 'E'] ∧ sign ∈ [[], ['+'], ['-']] ∧
    AreDigits ds ∧ ds ≠ [] ∧ text = letter :: (sign ++ ds)

/-- A fraction consists of marks. -/
theorem IsFraction.marks {text : List Char} (form : IsFraction text) : ∀ c ∈ text, IsMark c := by
  rcases form with rfl | ⟨ds, digits, -, rfl⟩
  · exact List.forall_mem_nil _
  · exact List.forall_mem_cons.mpr ⟨.inr (by simp), fun c among => .inl (digits c among)⟩

/-- A power of ten consists of marks. -/
theorem IsExponent.marks {text : List Char} (form : IsExponent text) : ∀ c ∈ text, IsMark c := by
  rcases form with rfl | ⟨letter, sign, ds, letters, signs, digits, -, rfl⟩
  · exact List.forall_mem_nil _
  · simp only [List.mem_cons, List.not_mem_nil, or_false] at letters signs
    refine List.forall_mem_cons.mpr ⟨?_, List.forall_mem_append.mpr
      ⟨?_, fun c among => .inl (digits c among)⟩⟩
    · rcases letters with rfl | rfl <;> exact .inr (by simp)
    · rcases signs with rfl | rfl | rfl
      · exact List.forall_mem_nil _
      · exact List.forall_mem_singleton.mpr (.inr (by simp))
      · exact List.forall_mem_singleton.mpr (.inr (by simp))

/-- The parts of a number after its sign. -/
structure AreParts (whole fraction exponent : List Char) : Prop where
  /-- The first part consists of digits. -/
  digits : AreDigits whole
  /-- There is a digit before the point. -/
  nonempty : whole ≠ []
  /-- Only a lone zero starts with a zero. -/
  leading : whole = ['0'] ∨ whole.head? ≠ some '0'
  /-- The second part is a fraction. -/
  fractional : IsFraction fraction
  /-- The third part is a power of ten. -/
  power : IsExponent exponent

/-- A numeral is made of such parts. -/
theorem areParts (n : Numeral) : AreParts n.whole n.fractionText n.exponentPart where
  digits := n.whole_digits
  nonempty := n.whole_ne_nil
  leading := n.leading
  fractional := by
    unfold Numeral.fractionText
    by_cases none : n.fraction = []
    · exact .inl (if_pos none)
    · exact .inr ⟨n.fraction, n.fraction_digits, none, if_neg none⟩
  power := by
    unfold Numeral.exponentPart
    cases n.exponent with
    | none => exact .inl rfl
    | some exponent =>
      refine .inr ⟨'E', [if exponent < 0 then '-' else '+'], Number.digits exponent.natAbs,
        by simp, ?_, Number.areDigits_digits _, Number.digits_ne_nil _, rfl⟩
      split <;> simp

/-- A fraction or a power of ten does not start with a digit, nor does what follows a number. -/
theorem head?_append {text rest : List Char} (form : IsFraction text ∨ IsExponent text)
    (ends : ∀ c ∈ rest.head?, c.isDigit = false) :
    ∀ c ∈ (text ++ rest).head?, c.isDigit = false := by
  rcases form with (rfl | ⟨_, -, -, rfl⟩) | (rfl | ⟨letter, _, _, among, -, -, -, rfl⟩)
  · exact ends
  · intro c hc
    cases hc
    rfl
  · exact ends
  · intro c hc
    cases hc
    simp only [List.mem_cons, List.not_mem_nil, or_false] at among
    rcases among with rfl | rfl <;> rfl

namespace AreParts

variable {whole fraction exponent rest : List Char}

/-- The text of a number consists of marks. -/
theorem marks (parts : AreParts whole fraction exponent) :
    ∀ c ∈ whole ++ (fraction ++ exponent), IsMark c :=
  List.forall_mem_append.mpr ⟨fun c among => .inl (parts.digits c among),
    List.forall_mem_append.mpr ⟨parts.fractional.marks, parts.power.marks⟩⟩

/-- A number is no string, list or object. -/
theorem exists_start (parts : AreParts whole fraction exponent) (negative : Bool)
    (rest : List Char) :
    ∃ c tail, Decimal.signText negative ++ (whole ++ (fraction ++ exponent)) ++ rest = c :: tail ∧
      c ∉ ['"', '[', '\x7b'] := by
  cases negative with
  | true => exact ⟨'-', _, rfl, by decide⟩
  | false =>
    obtain ⟨c, others, rfl⟩ := List.exists_cons_of_ne_nil parts.nonempty
    have digit : c.isDigit := parts.digits c List.mem_cons_self
    refine ⟨c, _, rfl, fun mark => ?_⟩
    simp only [List.mem_cons, List.not_mem_nil, or_false] at mark
    rcases mark with rfl | rfl | rfl <;> cases digit

/-- The whole part is read up to its end. -/
theorem spanWhole_append (parts : AreParts whole fraction exponent)
    (ends : ∀ c ∈ rest.head?, c.isDigit = false) : spanWhole (whole ++ rest) = (whole, rest) := by
  rcases parts.leading with zero | leading
  · rw [zero]
    rfl
  · obtain ⟨c, others, split⟩ := List.exists_cons_of_ne_nil parts.nonempty
    have notZero : c ≠ '0' := by simpa [split] using leading
    have digits := spanDigits_append parts.digits ends
    rw [split] at digits ⊢
    rw [List.cons_append, spanWhole]
    · exact digits
    · rintro more same
      exact notZero (List.cons.inj same).1

/-- The fraction is read up to its end. -/
theorem spanFraction_append (parts : AreParts whole fraction exponent)
    (ends : ∀ c ∈ rest.head?, c.isDigit = false) (noPoint : '.' ∉ rest.head?) :
    spanFraction (fraction ++ rest) = (fraction, rest) := by
  rcases parts.fractional with rfl | ⟨ds, digits, nonempty, rfl⟩
  · rw [List.nil_append, spanFraction]
    rintro more rfl
    exact noPoint rfl
  · obtain ⟨d, others, rfl⟩ := List.exists_cons_of_ne_nil nonempty
    rw [List.cons_append, spanFraction, spanDigits_append digits ends]

/-- The power of ten is read up to its end. -/
theorem spanExponent_append (parts : AreParts whole fraction exponent)
    (ends : EndsNumber rest) : spanExponent (exponent ++ rest) = (exponent, rest) := by
  rcases parts.power with rfl | ⟨letter, sign, ds, among, signs, digits, nonempty, rfl⟩
  · cases rest with
    | nil => rfl
    | cons c rest =>
      obtain ⟨-, -, notLower, notUpper⟩ := ends c rfl
      simp [spanExponent, notLower, notUpper]
  · have letters : (letter = 'e' || letter = 'E') = true := by simpa using among
    have spanned := spanDigits_append digits fun c hc => (ends c hc).1
    obtain ⟨d, others, rfl⟩ := List.exists_cons_of_ne_nil nonempty
    have digit : d.isDigit := digits d List.mem_cons_self
    have signed : spanSign (sign ++ (d :: others ++ rest)) = (sign, d :: others ++ rest) := by
      simp only [List.mem_cons, List.not_mem_nil, or_false] at signs
      rcases signs with rfl | rfl | rfl
      · have noPlus : d ≠ '+' := Number.ne_of_isDigit digit rfl
        have noMinus : d ≠ '-' := Number.ne_of_isDigit digit rfl
        rw [List.nil_append, List.cons_append, spanSign] <;> rintro more same
        · exact noPlus (List.cons.inj same).1
        · exact noMinus (List.cons.inj same).1
      · rfl
      · rfl
    rw [List.cons_append, List.append_assoc, spanExponent, if_pos letters, signed]
    dsimp only
    rw [spanned]
    rfl

/-- A number is read up to the end of its parts. -/
theorem readNumber_append (parts : AreParts whole fraction exponent) (fractions : Fractions)
    (start : List Char) (negative : Bool) (ends : EndsNumber rest) :
    readNumber fractions start negative (whole ++ (fraction ++ exponent) ++ rest) =
      (numberOf fractions negative whole fraction exponent).map fun v => (v, rest) := by
  have noDigit : ∀ c ∈ rest.head?, c.isDigit = false := fun c hc => (ends c hc).1
  have afterFraction := head?_append (.inr parts.power) noDigit
  have noPoint : '.' ∉ (exponent ++ rest).head? := by
    rcases parts.power with rfl | ⟨letter, _, _, among, -, -, -, rfl⟩
    · exact fun h => (ends '.' h).2.1 rfl
    · intro h
      cases h
      simp at among
  have first := parts.spanWhole_append (head?_append (.inl parts.fractional) afterFraction)
  have second := parts.spanFraction_append afterFraction noPoint
  have third := parts.spanExponent_append ends
  obtain ⟨c, others, split⟩ := List.exists_cons_of_ne_nil parts.nonempty
  rw [readNumber, List.append_assoc, List.append_assoc, first]
  simp only [split, second, third]

end AreParts

/-- A word without digits does not start a text that goes on with a digit too soon. -/
theorem after?_eq_none {c : Char} (digit : c.isDigit) {word before : List Char}
    (letters : ∀ w ∈ word, w.isDigit = false) (long : before.length < word.length)
    (rest : List Char) : after? word (before ++ c :: rest) = none := by
  induction before generalizing word with
  | nil =>
    cases word with
    | nil => cases long
    | cons w ws =>
      have other : w ≠ c := Ne.symm (Number.ne_of_isDigit digit (letters w List.mem_cons_self))
      rw [List.nil_append, after?, if_neg other]
  | cons d before ih =>
    cases word with
    | nil => cases long
    | cons w ws =>
      rw [List.cons_append, after?]
      split
      · exact ih (fun v hv => letters v (List.mem_cons_of_mem w hv)) (Nat.lt_of_succ_lt_succ long)
      · rfl

/-- A number is no word, and its sign is read before its parts. -/
theorem AreParts.readPlain_append {whole fraction exponent rest : List Char}
    (parts : AreParts whole fraction exponent) (fractions : Fractions) (negative : Bool)
    (ends : EndsNumber rest) :
    readPlain fractions
        (Decimal.signText negative ++ (whole ++ (fraction ++ exponent)) ++ rest) =
      (numberOf fractions negative whole fraction exponent).map fun v => (v, rest) := by
  obtain ⟨c, others, split⟩ := List.exists_cons_of_ne_nil parts.nonempty
  have digit : c.isDigit := parts.digits c (by simp [split])
  have letters : ∀ entry ∈ words,
      entry.1.all (fun w => !w.isDigit) ∧ 1 < entry.1.length := by decide
  have short : (Decimal.signText negative).length ≤ 1 := by cases negative <;> decide
  have noWord : ∀ entry ∈ words, after? entry.1
      (Decimal.signText negative ++ (whole ++ (fraction ++ exponent)) ++ rest) = none := by
    intro entry among
    obtain ⟨all, long⟩ := letters entry among
    have noDigit : ∀ w ∈ entry.1, w.isDigit = false := by simpa using all
    rw [split, List.append_assoc, List.cons_append, List.cons_append]
    exact after?_eq_none digit noDigit (Nat.lt_of_le_of_lt short long) _
  unfold readPlain
  split
  · next found word =>
    obtain ⟨entry, among, starts⟩ := List.exists_of_findSome?_eq_some word
    dsimp only at starts
    rw [noWord entry among] at starts
    cases starts
  · cases negative with
    | true => exact parts.readNumber_append fractions _ true ends
    | false =>
      have unsigned : c ≠ '-' := Number.ne_of_isDigit digit rfl
      have number := parts.readNumber_append fractions
        (whole ++ (fraction ++ exponent) ++ rest) false ends
      rw [split, List.cons_append, List.cons_append] at number
      simp only [Decimal.signText, Bool.false_eq_true, if_false, List.nil_append, split,
        List.cons_append]
      split
      · next minus => exact absurd (List.cons.inj minus).1 unsigned
      · exact number

/-- A numeral is read as a number of its parts. -/
theorem readPlain_chars (fractions : Fractions) (negative : Bool) (n : Numeral)
    {rest : List Char} (ends : EndsNumber rest) :
    readPlain fractions (Decimal.signText negative ++ n.chars ++ rest) =
      (numberOf fractions negative n.whole n.fractionText n.exponentPart).map
        fun v => (v, rest) :=
  (areParts n).readPlain_append fractions negative ends

/-- The parts of a number are joined to its text again. -/
theorem joined_parts (negative : Bool) (n : Numeral) :
    (if negative then '-' :: (n.whole ++ n.fractionText ++ n.exponentPart)
      else n.whole ++ n.fractionText ++ n.exponentPart) =
        Decimal.signText negative ++ n.chars := by
  cases negative <;> simp [Decimal.signText, Numeral.chars]

/-- The text of an integer is a numeral after an optional sign. -/
theorem intText_eq (k : Int) :
    intText k = Decimal.signText (decide (k < 0)) ++ (Numeral.ofNat k.natAbs).chars := by
  rw [Numeral.chars_ofNat, intText, Decimal.signText]
  by_cases below : k < 0 <;> simp [below]

/-- A number starts with a digit or a minus sign. -/
theorem exists_number_eq_cons (negative : Bool) (n : Numeral) :
    ∃ c rest, Decimal.signText negative ++ n.chars = c :: rest ∧ (c.isDigit ∨ c = '-') := by
  cases negative with
  | true => exact ⟨'-', n.chars, rfl, .inr rfl⟩
  | false =>
    obtain ⟨c, rest, split, digit⟩ := n.exists_chars_eq_cons
    exact ⟨c, rest, split, .inl digit⟩

/-- A written integer is read as the integer. -/
theorem readPlain_intText {k : Int} (short : Number.isLong k = false) {rest : List Char}
    (ends : EndsNumber rest) : readPlain .exact (intText k ++ rest) = .ok (.int k, rest) := by
  let n := Numeral.ofNat k.natAbs
  let negative := decide (k < 0)
  have text : intText k = Decimal.signText negative ++ n.chars := intText_eq k
  have number : numberOf .exact negative n.whole n.fractionText n.exponentPart = .ok (.int k) := by
    have noParts : n.fractionText = [] ∧ n.exponentPart = [] := ⟨rfl, rfl⟩
    unfold numberOf
    dsimp only
    rw [joined_parts, ← text, Number.readInteger?_intText short, noParts.1, noParts.2]
    rfl
  rw [text, readPlain_chars .exact negative n ends, number]
  rfl

/-- A written number with a fraction is read as the number. -/
theorem readPlain_decimal {negative : Bool} {coefficient : Nat} {exponent : Int}
    (admitted : (Decimal.finite negative coefficient exponent).IsAdmitted)
    (fractional : exponent < 0) {rest : List Char} (follows : Follows rest) :
    readPlain .exact ((Decimal.finite negative coefficient exponent).chars ++ rest) =
      .ok (.decimal (.finite negative coefficient exponent), rest) := by
  obtain ⟨n, chars, -, parts⟩ := Decimal.exists_numeral coefficient exponent
  have text : (Decimal.finite negative coefficient exponent).chars =
      Decimal.signText negative ++ n.chars := by rw [Decimal.chars, chars]
  have notWhole : (n.fractionText.isEmpty && n.exponentPart.isEmpty) = false := by
    unfold Numeral.fractionText Numeral.exponentPart
    rcases parts fractional with fraction | power
    · rw [if_neg fraction]
      rfl
    · obtain ⟨x, hx⟩ := Option.ne_none_iff_exists'.mp power
      rw [hx, Bool.and_comm]
      rfl
  have number : numberOf .exact negative n.whole n.fractionText n.exponentPart =
      .ok (.decimal (.finite negative coefficient exponent)) := by
    unfold numberOf
    dsimp only
    rw [joined_parts, ← text, Decimal.read?_chars admitted, notWhole]
    rfl
  rw [text, readPlain_chars .exact negative n follows.endsNumber, number]
  rfl

end Stencil.Json
