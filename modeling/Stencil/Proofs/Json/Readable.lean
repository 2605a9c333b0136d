import Stencil.Proofs.Json.Form
import Stencil.Proofs.Json.Number

/-!
# What reading JSON text gives

A text that is read gives a value of scalars that JSON text has a form for: its decimal numbers are
finite and within the limits, its integers are short enough to be written, and its other numbers
are those of the words. The keys of an object are different texts, for a name that is written twice
keeps its first place.
-/

namespace Stencil.Json

open Number (AreDigits IsMark)
open Value (AllScalars AllItems AllMembers)

/-- A scalar that a text is read as: one that has a form, and no integer that is too long. -/
def IsReadable (v : Value) : Prop := HasForm v ∧ v.holdsLong = false

/-- Every word stands for such a scalar. -/
theorem isReadable_of_mem_words {entry : List Char × Value} (among : entry ∈ words) :
    IsReadable entry.2 := by
  simp only [words, List.mem_cons, List.not_mem_nil, or_false] at among
  rcases among with rfl | rfl | rfl | rfl | rfl | rfl <;> exact ⟨trivial, rfl⟩

/-- What is taken off the start of a text as digits are digits. -/
theorem areDigits_spanDigits (cs : List Char) : AreDigits (spanDigits cs).1 := by
  intro c among
  exact List.all_eq_true.mp List.all_takeWhile c among

/-- The whole part of a number consists of digits. -/
theorem areDigits_spanWhole (cs : List Char) : AreDigits (spanWhole cs).1 := by
  unfold spanWhole
  split
  · intro c among
    rw [List.mem_singleton.mp among]
    rfl
  · exact areDigits_spanDigits cs

/-- The fraction of a number consists of marks. -/
theorem isMark_of_mem_spanFraction {cs : List Char} {c : Char}
    (among : c ∈ (spanFraction cs).1) : IsMark c := by
  unfold spanFraction at among
  split at among
  · next rest =>
    have digits := areDigits_spanDigits rest
    split at among
    · cases among
    · next ds after _ spanned =>
      rw [spanned] at digits
      rcases List.mem_cons.mp among with rfl | digit
      · exact .inr (by simp)
      · exact .inl (digits c digit)
  · cases among

/-- The power of ten of a number consists of marks. -/
theorem isMark_of_mem_spanExponent {cs : List Char} {c : Char}
    (among : c ∈ (spanExponent cs).1) : IsMark c := by
  unfold spanExponent at among
  split at among
  · next first rest =>
    split at among
    · next letter =>
      have digits := areDigits_spanDigits (spanSign rest).2
      dsimp only at among
      split at among
      · cases among
      · next ds after _ spanned =>
        rw [spanned] at digits
        rcases List.mem_cons.mp among with rfl | among
        · simp only [Bool.or_eq_true, decide_eq_true_eq] at letter
          rcases letter with rfl | rfl <;> exact .inr (by simp)
        rcases List.mem_append.mp among with sign | digit
        · unfold spanSign at sign
          split at sign
          · exact .inr (by simp [List.mem_singleton.mp sign])
          · exact .inr (by simp [List.mem_singleton.mp sign])
          · cases sign
        · exact .inl (digits c digit)
    · cases among
  · cases among

/-- A decimal number that is read from marks after its sign is within the limits. -/
theorem isAdmitted_of_signed {negative : Bool} {first : Char} {rest : List Char} {d : Decimal}
    (digit : first.isDigit) (marks : ∀ c ∈ first :: rest, IsMark c)
    (read : Decimal.read? (if negative then '-' :: first :: rest else first :: rest) = some d) :
    d.IsAdmitted := by
  cases negative with
  | true =>
    have signed : ∀ c ∈ '-' :: first :: rest, IsMark c :=
      List.forall_mem_cons.mpr ⟨.inr (by simp), marks⟩
    exact Decimal.isAdmitted_of_read? signed rfl digit read
  | false =>
    exact Decimal.isAdmitted_of_read? marks (Number.splitSign_of_isDigit _ digit) digit read

/-- A number of these parts is an integer that is short enough or a finite decimal number within the
limits. -/
theorem isReadable_of_numberOf {negative : Bool} {first : Char}
    {others fraction exponent : List Char} {v : Value} (digits : AreDigits (first :: others))
    (fractionMarks : ∀ c ∈ fraction, IsMark c) (exponentMarks : ∀ c ∈ exponent, IsMark c)
    (h : numberOf .exact negative (first :: others) fraction exponent = .ok v) : IsReadable v := by
  have spelledMarks : ∀ c ∈ first :: others ++ fraction ++ exponent, IsMark c := by
    intro c among
    rcases List.mem_append.mp among with among | power
    · rcases List.mem_append.mp among with whole | part
      · exact .inl (digits c whole)
      · exact fractionMarks c part
    · exact exponentMarks c power
  have digit : first.isDigit := digits first List.mem_cons_self
  unfold numberOf at h
  dsimp only at h
  split at h
  · split at h
    · next n read =>
      cases h
      exact ⟨trivial, Number.isLong_of_readInteger? read⟩
    · cases h
  · split at h
    · next d read =>
      cases h
      exact ⟨isAdmitted_of_signed digit spelledMarks read, rfl⟩
    · cases h

/-- A number that is read is such a scalar. -/
theorem isReadable_of_readNumber {start body rest : List Char} {negative : Bool} {v : Value}
    (h : readNumber .exact start negative body = .ok (v, rest)) : IsReadable v := by
  have whole := areDigits_spanWhole body
  unfold readNumber at h
  split at h
  · cases h
  · next ds after noDigits spanned =>
    rw [spanned] at whole
    obtain ⟨first, others, rfl⟩ := List.exists_cons_of_ne_nil noDigits
    obtain ⟨_, number, same⟩ := Outcome.exists_of_map_eq_ok h
    cases same
    exact isReadable_of_numberOf whole (fun c => isMark_of_mem_spanFraction)
      (fun c => isMark_of_mem_spanExponent) number

/-- A word or a number that is read is such a scalar. -/
theorem isReadable_of_readPlain {cs rest : List Char} {v : Value}
    (h : readPlain .exact cs = .ok (v, rest)) : IsReadable v := by
  unfold readPlain at h
  split at h
  · next found word =>
    obtain ⟨entry, among, starts⟩ := List.exists_of_findSome?_eq_some word
    obtain ⟨after, -, rfl⟩ := Option.map_eq_some_iff.mp starts
    cases h
    exact isReadable_of_mem_words among
  · split at h <;> exact isReadable_of_readNumber h

/-- A scalar that is read has no list and no object inside. -/
theorem allScalars_of_isReadable {v : Value} (readable : IsReadable v) :
    AllScalars IsReadable v := by
  cases v with
  | list => cases readable.1
  | object => cases readable.1
  | _ => exact readable

/-- What is read with some steps consists of such scalars. -/
structure ReadsReadable (steps : Nat) : Prop where
  /-- The value. -/
  value : ∀ {cs v rest}, readValue .exact steps cs = .ok (v, rest) → AllScalars IsReadable v
  /-- The items of a list. -/
  items : ∀ {cs items rest}, readItems .exact steps cs = .ok (items, rest) →
    AllItems IsReadable items
  /-- The members of an object. -/
  members : ∀ {cs members rest}, readMembers .exact steps cs = .ok (members, rest) →
    AllMembers IsReadable members

section

variable {steps : Nat} {cs rest : List Char}

/-- A value is read from a text, from items, from members, or as a word or a number. -/
theorem ReadsReadable.readValue (reads : ReadsReadable steps) {v : Value}
    (h : readValue .exact (steps + 1) cs = .ok (v, rest)) : AllScalars IsReadable v := by
  rw [Json.readValue.eq_def] at h
  dsimp only at h
  split at h
  · obtain ⟨_, -, same⟩ := Outcome.exists_of_map_eq_ok h
    cases same
    exact ⟨trivial, rfl⟩
  · split at h
    · cases h
      trivial
    · obtain ⟨_, inside, same⟩ := Outcome.exists_of_map_eq_ok h
      cases same
      exact reads.items inside
  · split at h
    · cases h
      exact ⟨List.Pairwise.nil, trivial⟩
    · obtain ⟨_, inside, same⟩ := Outcome.exists_of_map_eq_ok h
      cases same
      exact Value.allScalars_ofList (reads.members inside)
  · exact allScalars_of_isReadable (isReadable_of_readPlain h)

/-- Items are read one by one. -/
theorem ReadsReadable.readItems (reads : ReadsReadable steps) {items : List Value}
    (h : readItems .exact (steps + 1) cs = .ok (items, rest)) : AllItems IsReadable items := by
  rw [Json.readItems] at h
  split at h
  · cases h
  · next item after read =>
    have first := reads.value read
    split at h
    · cases h
      exact ⟨first, trivial⟩
    · obtain ⟨_, others, same⟩ := Outcome.exists_of_map_eq_ok h
      cases same
      exact ⟨first, reads.items others⟩
    · cases h

/-- Members are read one by one, each with a text as its key. -/
theorem ReadsReadable.readMembers (reads : ReadsReadable steps) {members : List (Key × Value)}
    (h : readMembers .exact (steps + 1) cs = .ok (members, rest)) :
    AllMembers IsReadable members := by
  rw [Json.readMembers.eq_def] at h
  dsimp only at h
  split at h
  · split at h
    · cases h
    · split at h
      · split at h
        · cases h
        · next item after read =>
          have first := reads.value read
          split at h
          · cases h
            exact ⟨⟨_, rfl⟩, first, trivial⟩
          · obtain ⟨_, others, same⟩ := Outcome.exists_of_map_eq_ok h
            cases same
            exact ⟨⟨_, rfl⟩, first, reads.members others⟩
          · cases h
      · cases h
  · cases h

end

/-- Whatever the number of steps, such scalars are read. -/
theorem readsReadable (steps : Nat) : ReadsReadable steps := by
  induction steps with
  | zero => exact ⟨nofun, nofun, nofun⟩
  | succ steps ih => exact ⟨ih.readValue, ih.readItems, ih.readMembers⟩

/-- A text is read as a value of such scalars. -/
theorem allScalars_of_read {s : String} {v : Value} (h : read s = .ok v) :
    AllScalars IsReadable v := by
  unfold read readChars at h
  split at h
  · cases h
  · split at h
    · cases h
    · next value after read =>
      split at h
      · cases h
        exact (readsReadable _).value read
      · cases h

/-- A value that is read has scalars that have a form, and no integer that is too long. -/
theorem of_read {s : String} {v : Value} (h : read s = .ok v) :
    AllScalars HasForm v ∧ v.holdsLong = false := by
  have all := allScalars_of_read h
  exact ⟨AllScalars.mono (fun _ scalar => scalar.1) v all,
    Value.holdsLong_eq_false v (AllScalars.mono (fun _ scalar => scalar.2) v all)⟩

end Stencil.Json
