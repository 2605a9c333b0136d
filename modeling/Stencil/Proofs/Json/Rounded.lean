import Stencil.Proofs.Binary64.Text
import Stencil.Proofs.Json.Readable
import Stencil.Proofs.Value.Scalars

/-!
# Reading with binary fractions

Reading a text with binary fractions is reading it exactly and rounding each fraction: whatever is
read with exact fractions is also read with binary ones, and nothing else changes.
-/

namespace Stencil.Json

open Number (AreDigits IsMark)
open Value (mapScalars mapItems mapMembers)

/-- A scalar with the nearest binary number in place of a finite decimal one. -/
def rounded : Value → Value
  | .decimal (.finite negative coefficient exponent) =>
    .binary (Binary64.ofScientific negative ⟨coefficient, exponent⟩)
  | v => v

/-- The words of values are read the same. -/
theorem mapScalars_rounded_of_mem_words {entry : List Char × Value} (among : entry ∈ words) :
    mapScalars rounded entry.2 = entry.2 := by
  simp only [words, List.mem_cons, List.not_mem_nil, or_false] at among
  rcases among with rfl | rfl | rfl | rfl | rfl | rfl <;> rfl

/-- A sign in front of a number, as text. -/
theorem signed_eq (negative : Bool) (text : List Char) :
    (if negative then '-' :: text else text) = Decimal.signText negative ++ text := by
  cases negative <;> rfl

/-- A number of these parts is rounded. -/
theorem numberOf_binary {negative : Bool} {first : Char} {others fraction exponent : List Char}
    {v : Value} (digits : AreDigits (first :: others))
    (fractionMarks : ∀ c ∈ fraction, IsMark c) (exponentMarks : ∀ c ∈ exponent, IsMark c)
    (h : numberOf .exact negative (first :: others) fraction exponent = .ok v) :
    numberOf .binary negative (first :: others) fraction exponent =
      .ok (mapScalars rounded v) := by
  have marks : ∀ c ∈ first :: (others ++ fraction ++ exponent), IsMark c := by
    intro c among
    rw [← List.cons_append, ← List.cons_append] at among
    rcases List.mem_append.mp among with among | power
    · rcases List.mem_append.mp among with whole | part
      · exact .inl (digits c whole)
      · exact fractionMarks c part
    · exact exponentMarks c power
  have digit : first.isDigit := digits first List.mem_cons_self
  unfold numberOf at h ⊢
  dsimp only at h ⊢
  rw [List.cons_append, List.cons_append, signed_eq] at h ⊢
  split at h
  · next whole =>
    rw [if_pos whole]
    split at h
    · cases h
      rfl
    · cases h
  · next fractional =>
    rw [if_neg fractional]
    split at h
    · next d read =>
      cases h
      obtain ⟨coefficient, power, rfl, nearest⟩ := Binary64.read?_of_decimal digit marks read
      rw [nearest]
      rfl
    · cases h

/-- A number that is read is rounded. -/
theorem readNumber_binary {start body rest : List Char} {negative : Bool} {v : Value}
    (h : readNumber .exact start negative body = .ok (v, rest)) :
    readNumber .binary start negative body = .ok (mapScalars rounded v, rest) := by
  have whole := areDigits_spanWhole body
  unfold readNumber at h ⊢
  split at h
  · cases h
  · next ds after noDigits spanned =>
    rw [spanned] at whole
    obtain ⟨first, others, rfl⟩ := List.exists_cons_of_ne_nil noDigits
    have fractionMarks := fun c => @isMark_of_mem_spanFraction after c
    have exponentMarks := fun c => @isMark_of_mem_spanExponent (spanFraction after).2 c
    generalize spanFraction after = parts at *
    obtain ⟨fraction, tail⟩ := parts
    dsimp only at h exponentMarks ⊢
    generalize spanExponent tail = parts at *
    obtain ⟨_, number, same⟩ := Outcome.exists_of_map_eq_ok h
    cases same
    rw [numberOf_binary whole fractionMarks exponentMarks number]
    rfl

/-- A word is read the same, and a number is rounded. -/
theorem readPlain_binary {cs rest : List Char} {v : Value}
    (h : readPlain .exact cs = .ok (v, rest)) :
    readPlain .binary cs = .ok (mapScalars rounded v, rest) := by
  unfold readPlain at h ⊢
  split at h
  · next found word =>
    obtain ⟨entry, among, starts⟩ := List.exists_of_findSome?_eq_some word
    obtain ⟨after, -, rfl⟩ := Option.map_eq_some_iff.mp starts
    cases h
    rw [mapScalars_rounded_of_mem_words among]
  · split at h <;> exact readNumber_binary h

/-- What is read exactly with some steps is read with binary fractions. -/
structure ReadsRounded (steps : Nat) : Prop where
  /-- The value. -/
  value : ∀ {cs v rest}, readValue .exact steps cs = .ok (v, rest) →
    readValue .binary steps cs = .ok (mapScalars rounded v, rest)
  /-- The items of a list. -/
  items : ∀ {cs items rest}, readItems .exact steps cs = .ok (items, rest) →
    readItems .binary steps cs = .ok (mapItems rounded items, rest)
  /-- The members of an object. -/
  members : ∀ {cs members rest}, readMembers .exact steps cs = .ok (members, rest) →
    readMembers .binary steps cs = .ok (mapMembers rounded members, rest)

section

variable {steps : Nat} {cs rest : List Char}

/-- A value is read from a text, from items, from members, or as a word or a number. -/
theorem ReadsRounded.readValue (reads : ReadsRounded steps) {v : Value}
    (h : readValue .exact (steps + 1) cs = .ok (v, rest)) :
    Json.readValue .binary (steps + 1) cs = .ok (mapScalars rounded v, rest) := by
  rw [Json.readValue.eq_def] at h ⊢
  dsimp only at h ⊢
  split at h
  · obtain ⟨_, read, same⟩ := Outcome.exists_of_map_eq_ok h
    cases same
    rw [read]
    rfl
  · split at h
    · cases h
      rfl
    · obtain ⟨_, inside, same⟩ := Outcome.exists_of_map_eq_ok h
      cases same
      rw [reads.items inside]
      rfl
  · split at h
    · cases h
      rfl
    · obtain ⟨_, inside, same⟩ := Outcome.exists_of_map_eq_ok h
      cases same
      rw [reads.members inside, mapScalars, Value.mapMembers_ofList]
      rfl
  · exact readPlain_binary h

/-- Items are read one by one. -/
theorem ReadsRounded.readItems (reads : ReadsRounded steps) {items : List Value}
    (h : readItems .exact (steps + 1) cs = .ok (items, rest)) :
    Json.readItems .binary (steps + 1) cs = .ok (mapItems rounded items, rest) := by
  rw [Json.readItems] at h ⊢
  split at h
  · cases h
  · next item after read =>
    rw [reads.value read]
    dsimp only
    split at h
    · cases h
      rfl
    · obtain ⟨_, others, same⟩ := Outcome.exists_of_map_eq_ok h
      cases same
      rw [reads.items others]
      rfl
    · cases h

/-- Members are read one by one, each with a text as its key. -/
theorem ReadsRounded.readMembers (reads : ReadsRounded steps) {members : List (Key × Value)}
    (h : readMembers .exact (steps + 1) cs = .ok (members, rest)) :
    Json.readMembers .binary (steps + 1) cs = .ok (mapMembers rounded members, rest) := by
  rw [Json.readMembers.eq_def] at h ⊢
  dsimp only at h ⊢
  split at h
  · split at h
    · cases h
    · split at h
      · split at h
        · cases h
        · next item after read =>
          rw [reads.value read]
          dsimp only
          split at h
          · cases h
            rfl
          · obtain ⟨_, others, same⟩ := Outcome.exists_of_map_eq_ok h
            cases same
            rw [reads.members others]
            rfl
          · cases h
      · cases h
  · cases h

end

/-- Whatever the number of steps, each fraction is rounded. -/
theorem readsRounded (steps : Nat) : ReadsRounded steps := by
  induction steps with
  | zero => exact ⟨nofun, nofun, nofun⟩
  | succ steps ih => exact ⟨ih.readValue, ih.readItems, ih.readMembers⟩

/-- A text that is read exactly is read with binary fractions as the same value with each fraction
rounded. -/
theorem readChars_binary {text : List Char} {v : Value} (h : readChars .exact text = .ok v) :
    readChars .binary text = .ok (mapScalars rounded v) := by
  unfold readChars at h ⊢
  split at h
  · cases h
  · split at h
    · cases h
    · next value after read =>
      rw [(readsRounded _).value read]
      dsimp only
      split at h
      · cases h
        rfl
      · cases h

end Stencil.Json
