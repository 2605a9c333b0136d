import Stencil.Proofs.Json.RoundTrip
import Stencil.Value.Literal

/-!
# Literals that are JSON text

The literal of a value and its compact JSON text are two spellings of the same data. They are seldom
the same text: words and quotes differ, decimal numbers are told apart, and a literal has a blank
after each comma and colon. The values for which they are the same text are nestings of lists of at
most one item around an integer, an empty object, or a text that is quoted in both ways alike.

Neither spelling of a text has other blanks than the text itself. This is how the blank after a
separator is told from those inside of texts.
-/

namespace Stencil.Json

open Number (IsMark)

/-- A character that is written alike between the double quotes of a literal and in a JSON string:
a tab or line end, a plain ASCII character, or one of the lowest plane that is an escape in both. -/
def IsWrittenAlike (c : Char) : Prop :=
  c = '\t' ∨ c = '\n' ∨ c = '\r' ∨ (32 ≤ c.toNat ∧ c.toNat < 127) ∨
    (256 ≤ c.toNat ∧ c.toNat < 0x10000 ∧ Text.isPrintable c = false)

/-- A text that a literal puts between double quotes, and whose characters are all written alike. -/
def IsQuotedAlike (s : String) : Prop :=
  Text.quoteOf s.toList = '"' ∧ ∀ c ∈ s.toList, IsWrittenAlike c

mutual

/-- A value whose literal is its compact JSON text. -/
def HasJsonLiteral : Value → Prop
  | .int _ => True
  | .text s => IsQuotedAlike s
  | .list items => items.length ≤ 1 ∧ HaveJsonLiterals items
  | .object members => members = []
  | _ => False
  termination_by structural v => v

/-- The literal of every item is its compact JSON text. -/
def HaveJsonLiterals : List Value → Prop
  | [] => True
  | item :: rest => HasJsonLiteral item ∧ HaveJsonLiterals rest
  termination_by structural items => items

end

section Texts

/-- Two spellings of a character that differ at one place, with the same characters before it. -/
def Diverge (one other : List Char) : Prop :=
  ∃ start a b more rest, a ≠ b ∧ one = start ++ a :: more ∧ other = start ++ b :: rest

/-- Spellings that differ at one place do so whatever follows them. -/
theorem Diverge.append_ne {one other : List Char} (apart : Diverge one other)
    (after later : List Char) : one ++ after ≠ other ++ later := by
  obtain ⟨start, a, b, more, rest, differ, rfl, rfl⟩ := apart
  intro equal
  rw [List.append_assoc, List.append_assoc, List.append_cancel_left_eq] at equal
  exact differ (List.cons.inj equal).1

/-- How a literal writes a character that is not the quote, a backslash, a tab or a line end. -/
theorem quoteChar_eq {c : Char} (plain : c ∉ ['"', '\\', '\t', '\n', '\r']) :
    Text.quoteChar '"' c =
      if Text.isPrintable c then [c]
      else if c.toNat < 256 then '\\' :: 'x' :: Text.hexDigits 2 c.toNat
      else if c.toNat < 65536 then unitEscape c.toNat
      else '\\' :: 'U' :: Text.hexDigits 8 c.toNat := by
  simp only [List.mem_cons, List.not_mem_nil, or_false, not_or] at plain
  obtain ⟨noQuote, noBackslash, noTab, noLine, noReturn⟩ := plain
  rw [Text.quoteChar, if_neg (by simp [noQuote, noBackslash]), if_neg noTab, if_neg noLine,
    if_neg noReturn, unitEscape]

/-- A plain ASCII character other than a quote or backslash stands for itself in both spellings. -/
theorem quoteChar_eq_of_ascii {c : Char} (low : 32 ≤ c.toNat) (high : c.toNat < 127) :
    Text.quoteChar '"' c = escapeChar c := by
  have apart {d : Char} (control : d.toNat < 32) : c ≠ d := by
    rintro rfl
    omega
  have printable : Text.isPrintable c = true := by
    rw [Text.isPrintable, if_pos (by omega), decide_eq_true ⟨low, high⟩]
  by_cases quote : c = '"'
  · rw [quote]
    rfl
  by_cases backslash : c = '\\'
  · rw [backslash]
    rfl
  have plain : c ∉ ['"', '\\', '\t', '\n', '\r'] := by
    simp [quote, backslash, apart (d := '\t') (by decide), apart (d := '\n') (by decide),
      apart (d := '\r') (by decide)]
  rw [quoteChar_eq plain, if_pos printable, escapeChar, if_neg quote, if_neg backslash,
    if_neg (apart (by decide)), if_neg (apart (by decide)), if_neg (apart (by decide)),
    if_neg (apart (by decide)), if_neg (apart (by decide)), if_pos (by simp [low, high])]

/-- A character beyond ASCII of the lowest plane is one escape in a JSON string. -/
theorem escapeChar_eq_unitEscape {c : Char} (low : 127 ≤ c.toNat) (high : c.toNat < 0x10000) :
    escapeChar c = unitEscape c.toNat := by
  have apart {d : Char} (ascii : d.toNat < 127) : c ≠ d := by
    rintro rfl
    omega
  have upper : ¬(32 ≤ c.toNat && c.toNat < 127) = true := by
    simp only [Bool.and_eq_true, decide_eq_true_eq]
    omega
  rw [escapeChar, if_neg (apart (by decide)), if_neg (apart (by decide)),
    if_neg (apart (by decide)), if_neg (apart (by decide)), if_neg (apart (by decide)),
    if_neg (apart (by decide)), if_neg (apart (by decide)), if_neg upper, if_pos high]

/-- A character that does not stand for itself in a JSON string and is no quote, backslash, tab or
line end is an escape of certain letters. -/
theorem exists_escapeChar {c : Char} (plain : c ∉ ['"', '\\', '\t', '\n', '\r'])
    (hidden : ¬(32 ≤ c.toNat ∧ c.toNat < 127)) :
    ∃ e rest, escapeChar c = '\\' :: e :: rest ∧ e ∈ ['b', 'f', 'u'] := by
  simp only [List.mem_cons, List.not_mem_nil, or_false, not_or] at plain
  obtain ⟨noQuote, noBackslash, noTab, noLine, noReturn⟩ := plain
  rw [escapeChar, if_neg noQuote, if_neg noBackslash, if_neg noLine, if_neg noReturn, if_neg noTab]
  split
  · exact ⟨'b', [], rfl, by decide⟩
  split
  · exact ⟨'f', [], rfl, by decide⟩
  rw [if_neg (by simpa using hidden)]
  split
  · exact ⟨'u', _, rfl, by decide⟩
  · exact ⟨'u', _, rfl, by decide⟩

/-- A character that is written alike has one spelling. -/
theorem quoteChar_eq_of_isWrittenAlike {c : Char} (alike : IsWrittenAlike c) :
    Text.quoteChar '"' c = escapeChar c := by
  rcases alike with rfl | rfl | rfl | ⟨low, high⟩ | ⟨low, high, hidden⟩
  · rfl
  · rfl
  · rfl
  · exact quoteChar_eq_of_ascii low high
  · have plain : c ∉ ['"', '\\', '\t', '\n', '\r'] := by
      intro among
      simp only [List.mem_cons, List.not_mem_nil, or_false] at among
      rcases among with rfl | rfl | rfl | rfl | rfl <;> exact absurd low (by decide)
    rw [quoteChar_eq plain, hidden, if_neg Bool.false_ne_true, if_neg (by omega), if_pos high,
      escapeChar_eq_unitEscape (by omega) high]

/-- The spellings of any other character differ at the first or second character. -/
theorem diverge_of_not_isWrittenAlike {c : Char} (unlike : ¬IsWrittenAlike c) :
    Diverge (Text.quoteChar '"' c) (escapeChar c) := by
  simp only [IsWrittenAlike, not_or] at unlike
  obtain ⟨noTab, noLine, noReturn, noAscii, noEscape⟩ := unlike
  have plain : c ∉ ['"', '\\', '\t', '\n', '\r'] := by
    intro among
    simp only [List.mem_cons, List.not_mem_nil, or_false] at among
    rcases among with rfl | rfl | tab | line | end'
    · exact noAscii (by decide)
    · exact noAscii (by decide)
    · exact noTab tab
    · exact noLine line
    · exact noReturn end'
  have noBackslash : c ≠ '\\' := fun equal => plain (by simp [equal])
  obtain ⟨e, rest, escape, letter⟩ := exists_escapeChar plain noAscii
  have letters : e ≠ 'x' ∧ e ≠ 'U' := by
    simp only [List.mem_cons, List.not_mem_nil, or_false] at letter
    rcases letter with rfl | rfl | rfl <;> decide
  rw [quoteChar_eq plain, escape]
  -- the character itself is no backslash, and an escape goes on with another letter
  cases printable : Text.isPrintable c with
  | true => exact ⟨[], c, '\\', [], e :: rest, noBackslash, rfl, rfl⟩
  | false =>
    rw [if_neg Bool.false_ne_true]
    by_cases byte : c.toNat < 256
    · rw [if_pos byte]
      exact ⟨['\\'], 'x', e, _, rest, letters.1.symm, rfl, rfl⟩
    · have upper : ¬c.toNat < 65536 := fun low => noEscape ⟨by omega, low, printable⟩
      rw [if_neg byte, if_neg upper]
      exact ⟨['\\'], 'U', e, _, rest, letters.2.symm, rfl, rfl⟩

/-- Characters are spelled alike exactly if each one is. -/
theorem flatMap_quoteChar_eq_iff {cs : List Char} :
    cs.flatMap (Text.quoteChar '"') = cs.flatMap escapeChar ↔ ∀ c ∈ cs, IsWrittenAlike c := by
  induction cs with
  | nil => simp
  | cons c rest ih =>
    rw [List.flatMap_cons, List.flatMap_cons, List.forall_mem_cons]
    by_cases alike : IsWrittenAlike c
    · rw [quoteChar_eq_of_isWrittenAlike alike, List.append_cancel_left_eq, ih]
      exact (and_iff_right alike).symm
    · have apart := diverge_of_not_isWrittenAlike alike
      exact ⟨fun equal => absurd equal (apart.append_ne _ _), fun both => absurd both.1 alike⟩

/-- The quoted text is the JSON string exactly if it is quoted alike. -/
theorem quote_eq_stringChars_iff (s : String) :
    (Text.quote s).toList = stringChars s ↔ IsQuotedAlike s := by
  have quoted : (Text.quote s).toList = Text.quoteOf s.toList ::
      s.toList.flatMap (Text.quoteChar (Text.quoteOf s.toList)) ++ [Text.quoteOf s.toList] := by
    rw [Text.quote, String.toList_ofList]
  rw [quoted, IsQuotedAlike, stringChars, ← flatMap_quoteChar_eq_iff]
  constructor
  · intro equal
    have quote : Text.quoteOf s.toList = '"' := (List.cons.inj equal).1
    rw [quote] at equal
    exact ⟨quote, List.append_cancel_right (List.cons.inj equal).2⟩
  · rintro ⟨quote, same⟩
    rw [quote, same]

end Texts

section Blanks

/-- No digit is a blank. -/
theorem blank_not_mem_hexDigits (width n : Nat) : ' ' ∉ Text.hexDigits width n := by
  induction width generalizing n with
  | zero => simp [Text.hexDigits]
  | succ width ih =>
    have digit : ∀ m < 16, ' ' ≠ Text.hexDigit m := by decide
    have last := digit (n % 16) (Nat.mod_lt n (by decide))
    simp [Text.hexDigits, ih, last]

/-- A spelling without blanks for every character but the blank, which stands for itself, has the
blanks of the text. -/
theorem count_flatMap {f : Char → List Char} (blank : f ' ' = [' '])
    (others : ∀ c, c ≠ ' ' → ' ' ∉ f c) (cs : List Char) :
    (cs.flatMap f).count ' ' = cs.count ' ' := by
  induction cs with
  | nil => rfl
  | cons c rest ih =>
    rw [List.flatMap_cons, List.count_append, ih]
    by_cases same : c = ' '
    · rw [same, blank, List.count_cons_self, List.count_cons_self, List.count_nil]
      omega
    · rw [List.count_eq_zero_of_not_mem (others c same), List.count_cons_of_ne same, Nat.zero_add]

/-- What encloses a text has no blanks. -/
theorem count_between {first last : Char} (opens : first ≠ ' ') (closes : last ≠ ' ')
    (inner : List Char) : (first :: inner ++ [last]).count ' ' = inner.count ' ' := by
  rw [List.count_append, List.count_cons_of_ne opens, List.count_cons_of_ne closes, List.count_nil,
    Nat.add_zero]

/-- The blanks of a JSON string are those of the text. -/
theorem count_stringChars (s : String) : (stringChars s).count ' ' = s.toList.count ' ' := by
  have others (c : Char) (other : c ≠ ' ') : ' ' ∉ escapeChar c := by
    unfold escapeChar unitEscape
    dsimp only
    repeat' split
    all_goals simp [blank_not_mem_hexDigits, Ne.symm other]
  rw [stringChars, count_between (by decide) (by decide), count_flatMap rfl others]

/-- The blanks of a quoted text are those of the text. -/
theorem count_quote (s : String) : (Text.quote s).toList.count ' ' = s.toList.count ' ' := by
  have blank {q : Char} (apart : q ≠ ' ') : Text.quoteChar q ' ' = [' '] := by
    rw [Text.quoteChar, if_neg (by simp [Ne.symm apart])]
    rfl
  have others {q : Char} (apart : q ≠ ' ') (c : Char) (other : c ≠ ' ') :
      ' ' ∉ Text.quoteChar q c := by
    unfold Text.quoteChar
    repeat' split
    all_goals simp [blank_not_mem_hexDigits, Ne.symm other]
  have quote : Text.quoteOf s.toList ≠ ' ' := by
    unfold Text.quoteOf
    split <;> decide
  rw [Text.quote, String.toList_ofList, count_between quote quote,
    count_flatMap (blank quote) (others quote)]

/-- Joined parts have the blanks of each part, as there is none in the separator. -/
theorem count_joined_cons (part : List Char) (parts : List (List Char)) :
    (joined [','] (part :: parts)).count ' ' = part.count ' ' + (joined [','] parts).count ' ' := by
  cases parts with
  | nil => rfl
  | cons next rest =>
    rw [joined, List.count_append, List.count_append]
    rfl

/-- Between the parts of a literal there is one more blank. -/
theorem count_commaJoin_cons (part : List Char) (parts : List (List Char)) :
    (commaJoin (part :: parts)).count ' ' =
      part.count ' ' + min parts.length 1 + (commaJoin parts).count ' ' := by
  cases parts with
  | nil => rfl
  | cons next rest =>
    rw [commaJoin, List.count_append, List.count_cons_of_ne (by decide), List.count_cons_self,
      List.length_cons]
    omega

end Blanks

section Values

/-- A finite decimal number is written in marks of numbers only. -/
theorem isMark_of_decimalChars {d : Decimal} (admitted : d.IsAdmitted) {cs : List Char}
    (written : decimalChars d = .ok cs) : ∀ c ∈ cs, IsMark c := by
  cases d with
  | finite negative coefficient exponent =>
    rw [decimalChars] at written
    split at written
    · rw [wholeChars_eq] at written
      obtain ⟨-, rfl⟩ := of_intChars_eq_ok written
      exact fun c => Number.isMark_of_mem_intText
    · cases written
      exact fun c => Decimal.isMark_of_mem_chars
  | _ => cases admitted

/-- No mark of a number is a blank. -/
theorem count_eq_zero_of_marks {cs : List Char} (marks : ∀ c ∈ cs, IsMark c) :
    cs.count ' ' = 0 := by
  refine List.count_eq_zero_of_not_mem fun among => ?_
  have plain := (marks ' ' among).plain.1
  revert plain
  decide

/-- A list has one literal for each item. -/
theorem length_itemLiterals (items : List Value) :
    (Value.itemLiterals items).length = items.length := by
  induction items with
  | nil => rfl
  | cons item rest ih => rw [Value.itemLiterals, List.length_cons, List.length_cons, ih]

mutual

/-- The JSON text of a value has no more blanks than its literal. -/
theorem count_writeChars_le (v : Value) (isJson : IsJson v) {cs : List Char}
    (written : writeChars .compact v = .ok cs) : cs.count ' ' ≤ v.literalChars.count ' ' := by
  cases v with
  | null =>
    cases written
    decide
  | bool b =>
    cases written
    cases b <;> decide
  | int n =>
    obtain ⟨-, rfl⟩ := of_intChars_eq_ok written
    exact Nat.le_refl _
  | decimal d =>
    rw [count_eq_zero_of_marks (isMark_of_decimalChars isJson written)]
    exact Nat.zero_le _
  | text s =>
    cases written
    exact Nat.le_of_eq ((count_stringChars s).trans (count_quote s).symm)
  | list items =>
    obtain ⟨parts, each, rfl⟩ := Outcome.exists_of_map_eq_ok written
    have fewer := count_writeItems_le items isJson each
    rw [Value.literalChars, count_between (by decide) (by decide),
      count_between (by decide) (by decide)]
    exact Nat.le_trans (Nat.le_add_right _ _) fewer
  | object members =>
    obtain ⟨parts, each, rfl⟩ := Outcome.exists_of_map_eq_ok written
    have fewer := count_writeMembers_le members isJson.2 each
    rw [Value.literalChars, count_between (by decide) (by decide),
      count_between (by decide) (by decide)]
    exact Nat.le_trans (Nat.le_add_right _ _) fewer
  | _ => cases isJson
  termination_by structural v

/-- The JSON texts of items, joined, lack at least the blanks between the literals. -/
theorem count_writeItems_le (items : List Value) (areJson : AreJson items)
    {parts : List (List Char)} (written : writeItems .compact items = .ok parts) :
    (joined [','] parts).count ' ' + (items.length - 1) ≤
      (commaJoin (Value.itemLiterals items)).count ' ' := by
  cases items with
  | nil =>
    cases written
    exact Nat.le_refl _
  | cons item rest =>
    obtain ⟨part, others, rfl, first, later⟩ := exists_of_writeItems written
    have fewer := count_writeChars_le item areJson.1 first
    have fewerLater := count_writeItems_le rest areJson.2 later
    rw [count_joined_cons, Value.itemLiterals, count_commaJoin_cons, length_itemLiterals,
      List.length_cons]
    omega
  termination_by structural items

/-- The JSON texts of members, joined, lack at least the blanks between the literals and inside of
them. -/
theorem count_writeMembers_le (members : List (Key × Value)) (holdJson : HoldJson members)
    {parts : List (List Char)} (written : writeMembers .compact members = .ok parts) :
    (joined [','] parts).count ' ' + members.length ≤
      (commaJoin (Value.memberLiterals members)).count ' ' := by
  cases members with
  | nil =>
    cases written
    exact Nat.le_refl _
  | cons member rest =>
    obtain ⟨key, item⟩ := member
    obtain ⟨⟨name, rfl⟩, isJson, others⟩ := holdJson
    obtain ⟨part, more, rfl, first, later⟩ := exists_of_writeMembers written
    have fewer := count_writeChars_le item isJson first
    have fewerLater := count_writeMembers_le rest others later
    have name : (Key.text name).literal.count ' ' = (stringChars name).count ' ' := by
      rw [count_stringChars, Key.literal, count_quote]
    rw [memberText, count_joined_cons, Value.memberLiterals, count_commaJoin_cons,
      List.length_cons, List.count_append, List.count_append, List.count_append, name,
      List.count_cons_of_ne (by decide), List.count_cons_self]
    have colon : Layout.compact.colon.count ' ' = 0 := by decide
    omega
  termination_by structural members

end

/-- The literal of a decimal number is no JSON text. -/
theorem decimalChars_ne_literal {d : Decimal} (admitted : d.IsAdmitted) :
    decimalChars d ≠ .ok d.literal := by
  intro written
  have mark := isMark_of_decimalChars admitted written 'D' List.mem_cons_self
  have plain : ¬IsMark 'D' := by
    rintro (digit | among)
    · cases digit
    · simp at among
  exact plain mark

/-- A single part is joined as in a literal. -/
theorem joined_eq_commaJoin {parts : List (List Char)} (few : parts.length ≤ 1) :
    joined [','] parts = commaJoin parts := by
  match parts with
  | [] => rfl
  | [part] => rfl
  | part :: next :: rest => simp at few

/-- A single item whose text is that of its literal. -/
theorem eq_of_joined_eq {items : List Value} (few : items.length ≤ 1) {parts : List (List Char)}
    (each : writeItems .compact items = .ok parts)
    (same : joined [','] parts = commaJoin (Value.itemLiterals items)) :
    parts = Value.itemLiterals items := by
  match items with
  | [] =>
    cases each
    rfl
  | [item] =>
    obtain ⟨part, others, rfl, -, later⟩ := exists_of_writeItems each
    cases later
    exact congrArg (fun text => [text]) same
  | item :: next :: rest => simp at few

mutual

/-- A value is written as its literal exactly if it holds no integer that is too long and its
literal is its compact JSON text. -/
theorem writeChars_eq_literalChars_iff (v : Value) (isJson : IsJson v) :
    writeChars .compact v = .ok v.literalChars ↔ v.holdsLong = false ∧ HasJsonLiteral v := by
  cases v with
  | null => exact ⟨fun written => (by cases written), fun both => both.2.elim⟩
  | bool b =>
    refine ⟨fun written => ?_, fun both => both.2.elim⟩
    cases b <;> cases written
  | int n =>
    rw [writeChars, intChars, Value.holdsLong, Value.literalChars]
    cases Number.isLong n with
    | false => exact ⟨fun _ => ⟨rfl, trivial⟩, fun _ => rfl⟩
    | true => exact ⟨fun written => (by cases written), fun both => (by cases both.1)⟩
  | decimal d =>
    exact ⟨fun written => (decimalChars_ne_literal isJson written).elim, fun both => both.2.elim⟩
  | text s =>
    rw [writeChars, Value.literalChars, HasJsonLiteral, ← quote_eq_stringChars_iff]
    exact ⟨fun written => ⟨rfl, (Except.ok.inj written).symm⟩, fun both => congrArg _ both.2.symm⟩
  | list items =>
    rw [Value.holdsLong, HasJsonLiteral, and_left_comm,
      ← writeItems_eq_itemLiterals_iff items isJson]
    constructor
    · intro written
      obtain ⟨parts, each, same⟩ := Outcome.exists_of_map_eq_ok written
      rw [Value.literalChars] at same
      have inner : joined [','] parts = commaJoin (Value.itemLiterals items) :=
        List.append_cancel_right (List.cons.inj same).2
      -- one text has its blanks once, so that no separator stands in it
      have fewer := count_writeItems_le items isJson each
      rw [inner] at fewer
      have few : items.length ≤ 1 := by omega
      exact ⟨few, each.trans (congrArg _ (eq_of_joined_eq few each inner))⟩
    · rintro ⟨few, each⟩
      rw [writeChars, each, Value.literalChars]
      rw [← length_itemLiterals] at few
      have inner : joined [','] (Value.itemLiterals items) = commaJoin (Value.itemLiterals items) :=
        joined_eq_commaJoin few
      rw [← inner]
      rfl
  | object members =>
    rw [Value.holdsLong, HasJsonLiteral]
    constructor
    · intro written
      obtain ⟨parts, each, same⟩ := Outcome.exists_of_map_eq_ok written
      rw [Value.literalChars] at same
      have inner : joined [','] parts = commaJoin (Value.memberLiterals members) :=
        List.append_cancel_right (List.cons.inj same).2
      -- every member brings a blank after its colon
      have fewer := count_writeMembers_le members isJson.2 each
      rw [inner] at fewer
      have none : members = [] := List.length_eq_zero_iff.mp (by omega)
      rw [none]
      exact ⟨rfl, rfl⟩
    · rintro ⟨-, rfl⟩
      rfl
  | _ => cases isJson
  termination_by structural v

/-- The same of items one by one. -/
theorem writeItems_eq_itemLiterals_iff (items : List Value) (areJson : AreJson items) :
    writeItems .compact items = .ok (Value.itemLiterals items) ↔
      Value.anyLong items = false ∧ HaveJsonLiterals items := by
  cases items with
  | nil => exact ⟨fun _ => ⟨rfl, trivial⟩, fun _ => rfl⟩
  | cons item rest =>
    have first := writeChars_eq_literalChars_iff item areJson.1
    have others := writeItems_eq_itemLiterals_iff rest areJson.2
    rw [Value.anyLong, Bool.or_eq_false_iff, HaveJsonLiterals, and_and_and_comm, ← first, ← others]
    constructor
    · intro written
      obtain ⟨part, parts, same, spelled, later⟩ := exists_of_writeItems written
      obtain ⟨rfl, rfl⟩ := List.cons.inj same
      exact ⟨spelled, later⟩
    · rintro ⟨spelled, later⟩
      rw [writeItems, spelled, Outcome.ok_bind, later]
      rfl
  termination_by structural items

end

mutual

/-- A value whose literal is its compact JSON text is not written where it holds an integer that is
too long. -/
theorem writeChars_of_holdsLong (v : Value) (literal : HasJsonLiteral v)
    (long : v.holdsLong = true) : writeChars .compact v = Outcome.defect .value := by
  cases v with
  | int n =>
    rw [writeChars, intChars]
    exact if_pos long
  | list items =>
    rw [writeChars, writeItems_of_anyLong items literal.1 literal.2 long]
    rfl
  | object members =>
    obtain rfl : members = [] := literal
    cases long
  | text s => cases long
  | _ => cases literal
  termination_by structural v

/-- The same of a single item. -/
theorem writeItems_of_anyLong (items : List Value) (few : items.length ≤ 1)
    (literals : HaveJsonLiterals items) (long : Value.anyLong items = true) :
    writeItems .compact items = Outcome.defect .value := by
  cases items with
  | nil => cases long
  | cons item rest =>
    obtain rfl : rest = [] := List.length_eq_zero_iff.mp (by simpa using few)
    rw [Value.anyLong, Value.anyLong, Bool.or_false] at long
    rw [writeItems, writeChars_of_holdsLong item literals.1 long]
    rfl
  termination_by structural items

end

end Values

end Stencil.Json
