import Stencil.Proofs.Json.Form
import Stencil.Proofs.Json.Reading

/-!
# Reading what was written

Reading takes exactly the text of a value off a longer text, whatever follows it, as long as that
cannot go on with a number. Lists and objects are read item by item; a text has at least as many
characters as reading it takes steps.
-/

namespace Stencil.Json

open Value (AllScalars AllItems AllMembers)

/-- A written integer is short enough, and its text is its digits. -/
theorem of_intChars_eq_ok {k : Int} {chars : List Char} (written : intChars k = .ok chars) :
    Number.isLong k = false ∧ chars = Number.intText k := by
  unfold intChars at written
  split at written
  · cases written
  · next short =>
    cases written
    exact ⟨by simpa using short, rfl⟩

/-- The texts of some items are that of the first one and those of the others. -/
theorem exists_of_writeItems {layout : Layout} {item : Value} {rest : List Value}
    {parts : List (List Char)} (written : writeItems layout (item :: rest) = .ok parts) :
    ∃ part others, parts = part :: others ∧ writeChars layout item = .ok part ∧
      writeItems layout rest = .ok others := by
  obtain ⟨part, first, written⟩ := Outcome.exists_of_bind_eq_ok written
  obtain ⟨others, second, same⟩ := Outcome.exists_of_bind_eq_ok written
  cases same
  exact ⟨part, others, rfl, first, second⟩

/-- The texts of some members are that of the first one and those of the others. -/
theorem exists_of_writeMembers {layout : Layout} {name : String} {item : Value}
    {rest : List (Key × Value)} {parts : List (List Char)}
    (written : writeMembers layout ((.text name, item) :: rest) = .ok parts) :
    ∃ part others, parts = memberText layout name part :: others ∧
      writeChars layout item = .ok part ∧ writeMembers layout rest = .ok others := by
  obtain ⟨_, same, written⟩ := Outcome.exists_of_bind_eq_ok written
  cases same
  obtain ⟨part, first, written⟩ := Outcome.exists_of_bind_eq_ok written
  obtain ⟨others, second, same⟩ := Outcome.exists_of_bind_eq_ok written
  cases same
  exact ⟨part, others, rfl, first, second⟩

/-- Only no items have no texts. -/
theorem eq_nil_of_writeItems {layout : Layout} {items : List Value}
    (written : writeItems layout items = .ok []) : items = [] := by
  cases items with
  | nil => rfl
  | cons item rest =>
    obtain ⟨_, _, same, -⟩ := exists_of_writeItems written
    cases same

/-- Only no members have no texts. -/
theorem eq_nil_of_writeMembers {layout : Layout} {members : List (Key × Value)}
    (formed : AllMembers HasForm members) (written : writeMembers layout members = .ok []) :
    members = [] := by
  cases members with
  | nil => rfl
  | cons entry rest =>
    obtain ⟨key, item⟩ := entry
    obtain ⟨⟨name, rfl⟩, -⟩ := formed
    obtain ⟨_, _, same, -⟩ := exists_of_writeMembers written
    cases same

/-- After the first part and a comma the others follow. -/
theorem joined_cons_append (layout : Layout) (part next : List Char) (others : List (List Char))
    (closing : List Char) :
    joined layout.comma (part :: next :: others) ++ closing =
      part ++ ',' :: (layout.gap ++ (joined layout.comma (next :: others) ++ closing)) := by
  rw [joined, layout.separators.1]
  simp

/-- The first part and the others are shorter than all of them. -/
theorem length_joined_cons (layout : Layout) (part next : List Char)
    (others : List (List Char)) :
    part.length + (joined layout.comma (next :: others)).length <
      (joined layout.comma (part :: next :: others)).length := by
  rw [joined, layout.separators.1]
  simp only [List.length_append, List.length_cons]
  omega

/-- A member takes more characters than its value. -/
theorem length_memberText (layout : Layout) (name : String) (part : List Char) :
    part.length < (memberText layout name part).length := by
  rw [memberText, layout.separators.2]
  simp only [List.length_append, List.length_cons]
  omega

/-- A number starts as a value does. -/
theorem starts_number (negative : Bool) (n : Number.Numeral) :
    Starts (Decimal.signText negative ++ n.chars) := by
  obtain ⟨c, rest, split, digit | rfl⟩ := exists_number_eq_cons negative n
  · exact ⟨c, rest, split, .inl digit⟩
  · exact ⟨'-', rest, split, .inr (by simp)⟩

/-- The text of a value starts as one. -/
theorem starts_writeChars {layout : Layout} {v : Value} (formed : AllScalars HasForm v)
    {chars : List Char} (written : writeChars layout v = .ok chars) : Starts chars := by
  have integer {k : Int} (written : intChars k = .ok chars) : Starts chars := by
    obtain ⟨-, rfl⟩ := of_intChars_eq_ok written
    rw [intText_eq]
    exact starts_number _ _
  cases v with
  | null =>
    cases written
    exact ⟨'n', _, rfl, .inr (by simp)⟩
  | bool b =>
    cases written
    cases b with
    | false => exact ⟨'f', _, rfl, .inr (by simp)⟩
    | true => exact ⟨'t', _, rfl, .inr (by simp)⟩
  | int k => exact integer written
  | decimal d =>
    cases d with
    | infinite => cases formed
    | undefined => cases formed
    | finite negative coefficient exponent =>
      rw [writeChars, decimalChars] at written
      split at written
      · rw [wholeChars_eq] at written
        exact integer written
      · obtain ⟨n, spelled, -⟩ := Decimal.exists_numeral coefficient exponent
        cases written
        rw [Decimal.chars, ← spelled]
        exact starts_number negative n
  | text s =>
    cases written
    exact ⟨'"', _, rfl, .inr (by simp)⟩
  | list items =>
    obtain ⟨parts, -, same⟩ := Outcome.exists_of_bind_eq_ok written
    cases same
    exact ⟨'[', _, rfl, .inr (by simp)⟩
  | object members =>
    obtain ⟨parts, -, same⟩ := Outcome.exists_of_bind_eq_ok written
    cases same
    exact ⟨'\x7b', _, rfl, .inr (by simp)⟩
  | binary x =>
    cases x with
    | finite => cases formed
    | undefined =>
      cases written
      exact ⟨'N', _, rfl, .inr (by simp)⟩
    | infinite negative =>
      cases written
      cases negative with
      | false => exact ⟨'I', _, rfl, .inr (by simp)⟩
      | true => exact ⟨'-', _, rfl, .inr (by simp)⟩
  | _ => cases formed

/-- The texts of items start as values do. -/
theorem starts_writeItems {layout : Layout} {items : List Value} (formed : AllItems HasForm items)
    {part : List Char} {others : List (List Char)}
    (written : writeItems layout items = .ok (part :: others)) : Starts part := by
  cases items with
  | nil => cases written
  | cons item rest =>
    obtain ⟨_, _, same, first, -⟩ := exists_of_writeItems written
    cases same
    exact starts_writeChars formed.1 first

/-- The texts of members start with quotes. -/
theorem starts_writeMembers {layout : Layout} {members : List (Key × Value)}
    (formed : AllMembers HasForm members) {part : List Char} {others : List (List Char)}
    (written : writeMembers layout members = .ok (part :: others)) : Starts part := by
  cases members with
  | nil => cases written
  | cons entry rest =>
    obtain ⟨key, item⟩ := entry
    obtain ⟨⟨name, rfl⟩, -⟩ := formed
    obtain ⟨_, _, same, -⟩ := exists_of_writeMembers written
    cases same
    exact ⟨'"', _, rfl, .inr (by simp)⟩

/-- A number is no string, list or object. -/
theorem readValue_number {fractions : Fractions} {steps : Nat} (negative : Bool)
    (n : Number.Numeral) (rest : List Char) :
    readValue fractions (steps + 1) (Decimal.signText negative ++ n.chars ++ rest) =
      readPlain fractions (Decimal.signText negative ++ n.chars ++ rest) := by
  obtain ⟨c, tail, split, starts⟩ := exists_number_eq_cons negative n
  rw [split, List.cons_append]
  apply readValue_plain
  rcases starts with digit | rfl
  · intro mark
    simp only [List.mem_cons, List.not_mem_nil, or_false] at mark
    rcases mark with rfl | rfl | rfl <;> cases digit
  · decide

/-- A written integer is read as the integer. -/
theorem readValue_intText {k : Int} {chars : List Char} (written : intChars k = .ok chars)
    {rest : List Char} (ends : EndsNumber rest) (steps : Nat) :
    readValue .exact (steps + 1) (chars ++ rest) = .ok (.int k, rest) := by
  obtain ⟨short, rfl⟩ := of_intChars_eq_ok written
  have read := readPlain_intText short ends
  rw [intText_eq] at read ⊢
  rw [readValue_number, read]

/-- A written decimal number is read as the number, or as the integer of the same value. -/
theorem readValue_decimalChars {d : Decimal} (admitted : d.IsAdmitted) {chars : List Char}
    (written : decimalChars d = .ok chars) {rest : List Char} (follows : Follows rest)
    (steps : Nat) :
    readValue .exact (steps + 1) (chars ++ rest) = .ok (integralDecimal d, rest) := by
  cases d with
  | infinite => cases admitted
  | undefined => cases admitted
  | finite negative coefficient exponent =>
    rw [decimalChars] at written
    rw [integralDecimal]
    by_cases whole : 0 ≤ exponent
    · rw [if_pos whole] at written ⊢
      rw [wholeChars_eq] at written
      exact readValue_intText written follows.endsNumber steps
    · rw [if_neg whole] at written ⊢
      cases written
      have read := readPlain_decimal admitted (Int.lt_of_not_ge whole) follows
      obtain ⟨n, spelled, -⟩ := Decimal.exists_numeral coefficient exponent
      rw [Decimal.chars, ← spelled] at read ⊢
      rw [readValue_number, read]

/-- A list is read when its items are. -/
theorem readValue_items {layout : Layout} {items : List Value} (formed : AllItems HasForm items)
    {parts : List (List Char)} (written : writeItems layout items = .ok parts)
    {rest : List Char} {steps : Nat}
    (read : parts ≠ [] → readItems .exact steps (joined layout.comma parts ++ ']' :: rest) =
      .ok (integralItems items, rest)) :
    readValue .exact (steps + 1) ('[' :: joined layout.comma parts ++ [']'] ++ rest) =
      .ok (.list (integralItems items), rest) := by
  cases parts with
  | nil =>
    rw [eq_nil_of_writeItems written]
    rfl
  | cons part others =>
    have starts := (starts_writeItems formed written).joined layout.comma others
    have spelled : '[' :: joined layout.comma (part :: others) ++ [']'] ++ rest =
        '[' :: (joined layout.comma (part :: others) ++ ']' :: rest) := by simp
    rw [spelled, readValue_list (starts.append _) (read (List.cons_ne_nil part others))]

/-- An object is read when its members are. -/
theorem readValue_members {layout : Layout} {members : List (Key × Value)}
    (formed : AllScalars HasForm (.object members)) {parts : List (List Char)}
    (written : writeMembers layout members = .ok parts) {rest : List Char} {steps : Nat}
    (read : parts ≠ [] → readMembers .exact steps (joined layout.comma parts ++ '\x7d' :: rest) =
      .ok (integralMembers members, rest)) :
    readValue .exact (steps + 1) ('\x7b' :: joined layout.comma parts ++ ['\x7d'] ++ rest) =
      .ok (.object (integralMembers members), rest) := by
  obtain ⟨distinct, membersFormed⟩ := formed
  cases parts with
  | nil =>
    rw [eq_nil_of_writeMembers membersFormed written]
    rfl
  | cons part others =>
    have starts := (starts_writeMembers membersFormed written).joined layout.comma others
    have spelled : '\x7b' :: joined layout.comma (part :: others) ++ ['\x7d'] ++ rest =
        '\x7b' :: (joined layout.comma (part :: others) ++ '\x7d' :: rest) := by simp
    have kept : Fields.AreDistinct (integralMembers members) := by
      rw [Fields.AreDistinct, keys_integralMembers]
      exact distinct
    rw [spelled, readValue_object (starts.append _) (read (List.cons_ne_nil part others)),
      Fields.ofList_of_areDistinct kept]

/-- The brackets around joined parts leave fewer steps, which are enough for the parts. -/
theorem enough_inside {opening closing : Char} {inside : List Char} {steps : Nat}
    (enough : (opening :: inside ++ [closing]).length ≤ steps + 1) : inside.length < steps := by
  simp only [List.length_cons, List.length_append, List.length_nil] at enough
  omega

mutual

/-- The text of a value is read as the value, with integers in place of decimal numbers without a
fraction, and what follows it is left. -/
theorem readValue_writeChars {layout : Layout} (v : Value) (formed : AllScalars HasForm v)
    {chars : List Char} (written : writeChars layout v = .ok chars) {rest : List Char}
    (follows : Follows rest) {steps : Nat} (enough : chars.length ≤ steps) :
    readValue .exact steps (chars ++ rest) = .ok (integral v, rest) := by
  -- The text has a character, so there is a step for the value itself.
  have positive := (starts_writeChars formed written).length_pos
  obtain ⟨fewer, rfl⟩ : ∃ fewer, steps = fewer + 1 := ⟨steps - 1, by omega⟩
  cases v with
  | null =>
    cases written
    rfl
  | bool b =>
    cases written
    cases b <;> rfl
  | int k => exact readValue_intText written follows.endsNumber fewer
  | decimal d => exact readValue_decimalChars formed written follows fewer
  | text s =>
    cases written
    have read := readString_stringChars s rest
    have spelled : stringChars s ++ rest =
        '"' :: (s.toList.flatMap escapeChar ++ '"' :: rest) := by simp [stringChars]
    rw [spelled, readValue, read]
    rfl
  | list items =>
    obtain ⟨parts, writtenItems, same⟩ := Outcome.exists_of_bind_eq_ok written
    cases same
    refine readValue_items formed writtenItems fun nonempty => ?_
    obtain ⟨part, others, rfl⟩ := List.exists_cons_of_ne_nil nonempty
    exact readItems_writeItems items formed writtenItems rest (enough_inside enough)
  | object members =>
    obtain ⟨parts, writtenMembers, same⟩ := Outcome.exists_of_bind_eq_ok written
    cases same
    refine readValue_members formed writtenMembers fun nonempty => ?_
    obtain ⟨part, others, rfl⟩ := List.exists_cons_of_ne_nil nonempty
    exact readMembers_writeMembers members formed.2 writtenMembers rest (enough_inside enough)
  | binary x =>
    cases x with
    | finite => cases formed
    | undefined =>
      cases written
      rfl
    | infinite negative =>
      cases written
      cases negative <;> rfl
  | _ => cases formed
  termination_by structural v

/-- The texts of items are read as the items. -/
theorem readItems_writeItems {layout : Layout} (items : List Value)
    (formed : AllItems HasForm items) {part : List Char} {others : List (List Char)}
    (written : writeItems layout items = .ok (part :: others)) (rest : List Char) {steps : Nat}
    (enough : (joined layout.comma (part :: others)).length < steps) :
    readItems .exact steps (joined layout.comma (part :: others) ++ ']' :: rest) =
      .ok (integralItems items, rest) := by
  cases items with
  | nil => cases written
  | cons item more =>
    obtain ⟨_, _, same, first, second⟩ := exists_of_writeItems written
    cases same
    obtain ⟨formed, moreFormed⟩ := formed
    obtain ⟨fewer, rfl⟩ : ∃ fewer, steps = fewer + 1 := ⟨steps - 1, by omega⟩
    cases others with
    | nil =>
      have closes : Follows (']' :: rest) := .cons (by simp) rest
      have read := readValue_writeChars item formed first closes (Nat.le_of_lt_succ enough)
      rw [eq_nil_of_writeItems second]
      exact readItems_last read
    | cons next others =>
      -- The other items are shorter by the item at hand and a comma, which pay for this step.
      have shorter := length_joined_cons layout part next others
      have partFits : part.length ≤ fewer := by omega
      have othersFit : (joined layout.comma (next :: others)).length < fewer := by omega
      have comma (tail : List Char) : Follows (',' :: tail) := .cons (by simp) tail
      have starts := (starts_writeItems moreFormed second).joined layout.comma others
      have read (tail : List Char) :=
        readValue_writeChars item formed first (comma tail) partFits
      have readOthers := readItems_writeItems more moreFormed second rest othersFit
      rw [joined_cons_append]
      refine readItems_more (read _) ?_
      rw [skip_gap, (starts.append _).skip_eq, readOthers]
  termination_by structural items

/-- The texts of members are read as the members. -/
theorem readMembers_writeMembers {layout : Layout} (members : List (Key × Value))
    (formed : AllMembers HasForm members) {part : List Char} {others : List (List Char)}
    (written : writeMembers layout members = .ok (part :: others)) (rest : List Char)
    {steps : Nat} (enough : (joined layout.comma (part :: others)).length < steps) :
    readMembers .exact steps (joined layout.comma (part :: others) ++ '\x7d' :: rest) =
      .ok (integralMembers members, rest) := by
  cases members with
  | nil => cases written
  | cons entry more =>
    obtain ⟨key, item⟩ := entry
    obtain ⟨⟨name, rfl⟩, formed, moreFormed⟩ := formed
    obtain ⟨part, _, same, first, second⟩ := exists_of_writeMembers written
    cases same
    obtain ⟨fewer, rfl⟩ : ∃ fewer, steps = fewer + 1 := ⟨steps - 1, by omega⟩
    have valueStarts := starts_writeChars formed first
    have shorterValue := length_memberText layout name part
    cases others with
    | nil =>
      have closes : Follows ('\x7d' :: rest) := .cons (by simp) rest
      have whole : (memberText layout name part).length < fewer + 1 := enough
      have partFits : part.length ≤ fewer := by omega
      have read := readValue_writeChars item formed first closes partFits
      rw [eq_nil_of_writeMembers moreFormed second]
      exact readMembers_last layout name valueStarts read
    | cons next others =>
      have shorter := length_joined_cons layout (memberText layout name part) next others
      have partFits : part.length ≤ fewer := by omega
      have othersFit : (joined layout.comma (next :: others)).length < fewer := by omega
      have comma (tail : List Char) : Follows (',' :: tail) := .cons (by simp) tail
      have starts := (starts_writeMembers moreFormed second).joined layout.comma others
      have read (tail : List Char) :=
        readValue_writeChars item formed first (comma tail) partFits
      have readOthers := readMembers_writeMembers more moreFormed second rest othersFit
      rw [joined_cons_append]
      refine readMembers_more layout name valueStarts (read _) ?_
      rw [skip_gap, (starts.append _).skip_eq, readOthers]
  termination_by structural members

end

/-- The whole text of a value is read as the value, with integers in place of decimal numbers
without a fraction. -/
theorem readChars_writeChars_of_hasForm {layout : Layout} {v : Value}
    (formed : AllScalars HasForm v) {chars : List Char}
    (written : writeChars layout v = .ok chars) : readChars .exact chars = .ok (integral v) := by
  have starts := starts_writeChars formed written
  have enough : chars.length ≤ 2 * chars.length + 1 := by omega
  have value := readValue_writeChars v formed written .nil enough
  have noSkip := starts.skip_eq
  rw [List.append_nil] at value
  obtain ⟨c, rest, rfl, isStart⟩ := starts
  have noMark : c ≠ '\uFEFF' := isStart.ne (by simp [IsStart])
  rw [readChars]
  · rw [noSkip, value]
    rfl
  · rintro rest same
    exact noMark (List.cons.inj same).1

/-- The same of the values that JSON has a form for. -/
theorem readChars_writeChars {layout : Layout} {v : Value} (isJson : IsJson v)
    {chars : List Char} (written : writeChars layout v = .ok chars) :
    readChars .exact chars = .ok (integral v) :=
  readChars_writeChars_of_hasForm (hasForm_of_isJson v isJson) written

/-- Writing and reading JSON is a round trip. In both layouts the text of a value of the kinds that
JSON has a form for is read as the value, in which only the decimal numbers without a fraction have
become integers of the same value, and what is read is written as the same text again. -/
theorem read_of_write {layout : Layout} {v : Value} (isJson : IsJson v) {text : String}
    (written : write layout v = .ok text) :
    read text = .ok (integral v) ∧ write layout (integral v) = .ok text := by
  constructor
  · obtain ⟨chars, spelled, rfl⟩ := Outcome.exists_of_map_eq_ok written
    rw [read, String.toList_ofList]
    exact readChars_writeChars isJson spelled
  · rw [write, writeChars_integral]
    exact written

/-- An object with a character of an upper plane, a negative zero, a scale, an exponent and a
decimal number without a fraction. -/
theorem read_of_write_mixed :
    let numbers (last : Value) : Value := .object [(.text "\"😀", .list [
      .decimal (.finite true 0 (-1)), .decimal (.finite false 150 (-2)),
      .decimal (.finite false 1 (-7)), last])]
    let text := "\x7b\"\\\"\\ud83d\\ude00\": [-0.0, 1.50, 1E-7, 100]\x7d"
    IsJson (numbers (.decimal (.finite false 1 2))) ∧
    write .spaced (numbers (.decimal (.finite false 1 2))) = .ok text ∧
    read text = .ok (numbers (.int 100)) := by
  intro numbers text
  have isJson : IsJson (numbers (.decimal (.finite false 1 2))) := by
    refine ⟨List.pairwise_singleton _ _, ⟨_, rfl⟩, ⟨?_, ?_, ?_, ?_, trivial⟩, trivial⟩ <;>
      exact ⟨by decide, by decide⟩
  have hundred : decimalChars (.finite false 1 2) = .ok "100".toList := by
    have short : Number.isLong 100 = false := Number.isLong_eq_false (by decide +kernel)
    have value : Decimal.signed false (1 * Number.pow10 (2 : Int).toNat) = 100 := by decide
    rw [decimalChars, if_pos (by decide), wholeChars_eq, value, intChars_of_short short]
    rfl
  have written : write .spaced (numbers (.decimal (.finite false 1 2))) = .ok text := by
    simp only [numbers, write, writeChars, writeMembers, writeItems, hundred]
    rfl
  exact ⟨isJson, written, (read_of_write isJson written).1⟩

end Stencil.Json
