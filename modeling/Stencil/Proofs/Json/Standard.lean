import Stencil.Proofs.Json.Grammar
import Stencil.Proofs.Json.Readable
import Stencil.Proofs.Json.RoundTrip

/-!
# Writing and reading standard JSON

The text of a value without infinite and undefined numbers is standard. What is read from a standard
text has no such numbers: reading takes exactly the text of each form off a longer text.
-/

namespace Stencil.Json

open Value (AllScalars AllItems AllMembers)

/-- A scalar that standard JSON has a text for: null, a truth value, an integer, a finite decimal
number or a text. -/
def IsFinite : Value → Prop
  | .null => True
  | .bool _ => True
  | .int _ => True
  | .decimal d => d.isFinite
  | .text _ => True
  | _ => False

section Writing

variable {layout : Layout}

/-- A numeral after an optional sign is a number. -/
theorem isNumber_of_numeral (negative : Bool) (n : Number.Numeral) :
    IsNumber (Decimal.signText negative ++ n.chars) :=
  ⟨negative, n.whole, n.fractionText, n.exponentPart, areParts n, rfl⟩

/-- A written integer is a number. -/
theorem isNumber_of_intChars {k : Int} {chars : List Char} (written : intChars k = .ok chars) :
    IsNumber chars := by
  obtain ⟨-, rfl⟩ := of_intChars_eq_ok written
  rw [intText_eq]
  exact isNumber_of_numeral _ _

/-- A written finite decimal number is a number. -/
theorem isNumber_of_decimalChars {d : Decimal} (finite : d.isFinite) {chars : List Char}
    (written : decimalChars d = .ok chars) : IsNumber chars := by
  cases d with
  | infinite => cases finite
  | undefined => cases finite
  | finite negative coefficient exponent =>
    rw [decimalChars] at written
    split at written
    · rw [wholeChars_eq] at written
      exact isNumber_of_intChars written
    · obtain ⟨n, spelled, -⟩ := Decimal.exists_numeral coefficient exponent
      cases written
      rw [Decimal.chars, ← spelled]
      exact isNumber_of_numeral negative n

/-- A digit of base sixteen is written as one. -/
theorem isHexDigit_hexDigit {n : Nat} (h : n < 16) : IsHexDigit (Text.hexDigit n) := by
  have all : ∀ n < 16, IsHexDigit (Text.hexDigit n) := by
    unfold IsHexDigit
    decide
  exact all n h

/-- An escape by code unit is a character of a string. -/
theorem isCharacter_unitEscape (n : Nat) : IsCharacter (unitEscape n) := by
  have digit (m : Nat) : IsHexDigit (Text.hexDigit (m % 16)) :=
    isHexDigit_hexDigit (Nat.mod_lt m (by decide))
  exact .unit (digit _) (digit _) (digit _) (digit _)

/-- What is written for a character may stand in a string. -/
theorem isStringBody_escapeChar (c : Char) {rest : List Char} (body : IsStringBody rest) :
    IsStringBody (escapeChar c ++ rest) := by
  rcases escapeChar_forms c with ⟨e, form, short⟩ | ⟨form, noQuote, noBackslash, visible⟩ |
    ⟨form, -⟩ | ⟨form, -⟩
  · have letter : e ∈ ['"', '\\', '/', 'b', 'f', 'n', 'r', 't'] := by
      unfold shortEscape? at short
      split at short <;> first | decide | cases short
    rw [form]
    exact .cons (.escape letter) body
  · rw [form]
    exact .cons (.plain noQuote noBackslash visible) body
  · rw [form]
    exact .cons (isCharacter_unitEscape _) body
  · rw [form, List.append_assoc]
    exact .cons (isCharacter_unitEscape _) (.cons (isCharacter_unitEscape _) body)

/-- What is written for the characters of a text may stand in a string. -/
theorem isStringBody_flatMap (text : List Char) : IsStringBody (text.flatMap escapeChar) := by
  induction text with
  | nil => exact .nil
  | cons c text ih =>
    rw [List.flatMap_cons]
    exact isStringBody_escapeChar c ih

/-- Parts with commas between them have a form that is one part, or a part, a comma and more. -/
theorem standard_joined {one many : Form}
    (last : ∀ {text}, Standard one text → Standard many text)
    (more : ∀ {text others}, Standard one text → Standard many others →
      Standard many (text ++ ',' :: others))
    {part : List Char} {others : List (List Char)}
    (all : ∀ text ∈ part :: others, ∀ before, AreSpaces before → Standard one (before ++ text))
    {before : List Char} (spaces : AreSpaces before) :
    Standard many (before ++ joined layout.comma (part :: others)) := by
  induction others generalizing part before with
  | nil => exact last (all part List.mem_cons_self before spaces)
  | cons next others ih =>
    have first := all part List.mem_cons_self before spaces
    have rest := ih (fun text among => all text (List.mem_cons_of_mem part among))
      (areSpaces_gap layout)
    have split : before ++ joined layout.comma (part :: next :: others) =
        before ++ part ++ ',' :: (layout.gap ++ joined layout.comma (next :: others)) := by
      rw [joined, layout.separators.1]
      simp
    rw [split]
    exact more first rest

/-- A standard value with spaces in front of it. -/
theorem Standard.element_of_value {text before : List Char} (standard : Standard .value text)
    (spaces : AreSpaces before) : Standard .element (before ++ text) := by
  have element := Standard.element spaces standard .nil
  rwa [List.append_nil] at element

/-- A member of a standard value with spaces in front of it. -/
theorem standard_memberText {name : String} {part before : List Char}
    (standard : Standard .value part) (spaces : AreSpaces before) :
    Standard .member (before ++ memberText layout name part) := by
  have member := Standard.member spaces (isStringBody_flatMap name.toList) .nil
    (standard.element_of_value (areSpaces_gap layout))
  have split : memberText layout name part =
      '"' :: (name.toList.flatMap escapeChar ++ '"' :: ([] ++ ':' :: (layout.gap ++ part))) := by
    simp [memberText, stringChars, layout.separators.2]
  rwa [split]

mutual

/-- The text of a value with finite scalars is standard. -/
theorem standard_of_writeChars (v : Value) (finite : AllScalars IsFinite v) {chars : List Char}
    (written : writeChars layout v = .ok chars) : Standard .value chars := by
  cases v with
  | null =>
    cases written
    exact .word (by simp)
  | bool b =>
    cases written
    cases b <;> exact .word (by simp)
  | int k => exact .number (isNumber_of_intChars written)
  | decimal d => exact .number (isNumber_of_decimalChars finite written)
  | text s =>
    cases written
    exact .string (isStringBody_flatMap s.toList)
  | list items =>
    obtain ⟨parts, inside, same⟩ := Outcome.exists_of_bind_eq_ok written
    cases same
    have all := standard_of_writeItems items finite inside
    cases parts with
    | nil => exact .noItems .nil
    | cons part others => exact .list (standard_joined .lastItem .moreItems all .nil)
  | object members =>
    obtain ⟨parts, inside, same⟩ := Outcome.exists_of_bind_eq_ok written
    cases same
    have all := standard_of_writeMembers members finite.2 inside
    cases parts with
    | nil => exact .noMembers .nil
    | cons part others => exact .object (standard_joined .lastMember .moreMembers all .nil)
  | _ => cases finite
  termination_by structural v

/-- The text of each item is standard, whatever spaces stand in front of it. -/
theorem standard_of_writeItems (items : List Value) (finite : AllItems IsFinite items)
    {parts : List (List Char)} (written : writeItems layout items = .ok parts) :
    ∀ part ∈ parts, ∀ before, AreSpaces before → Standard .element (before ++ part) := by
  cases items with
  | nil =>
    cases written
    exact nofun
  | cons item rest =>
    obtain ⟨part, others, rfl, first, second⟩ := exists_of_writeItems written
    have standard := standard_of_writeChars item finite.1 first
    exact List.forall_mem_cons.mpr
      ⟨fun before => standard.element_of_value, standard_of_writeItems rest finite.2 second⟩
  termination_by structural items

/-- The text of each member is standard, whatever spaces stand in front of it. -/
theorem standard_of_writeMembers (members : List (Key × Value))
    (finite : AllMembers IsFinite members) {parts : List (List Char)}
    (written : writeMembers layout members = .ok parts) :
    ∀ part ∈ parts, ∀ before, AreSpaces before → Standard .member (before ++ part) := by
  cases members with
  | nil =>
    cases written
    exact nofun
  | cons member rest =>
    obtain ⟨key, item⟩ := member
    obtain ⟨⟨name, rfl⟩, finite, others⟩ := finite
    obtain ⟨part, texts, rfl, first, second⟩ := exists_of_writeMembers written
    have standard := standard_of_writeChars item finite first
    exact List.forall_mem_cons.mpr
      ⟨fun before => standard_memberText standard, standard_of_writeMembers rest others second⟩
  termination_by structural members

end

/-- A value with finite scalars is written as standard JSON. -/
theorem isStandard_of_write {v : Value} (finite : AllScalars IsFinite v) {text : String}
    (written : write layout v = .ok text) : IsStandard text := by
  obtain ⟨chars, spelled, rfl⟩ := Outcome.exists_of_map_eq_ok written
  have element := (standard_of_writeChars v finite spelled).element_of_value .nil
  rwa [IsStandard, String.toList_ofList]

end Writing

section Reading

variable {steps : Nat} {rest left : List Char}

/-- A code unit is its four digits. -/
theorem eq_of_codeUnit? {a b c d : Char} {text : List Char} {n : Nat}
    (h : codeUnit? (a :: b :: c :: d :: text) = some (n, left)) : left = text := by
  cases text with
  | nil => cases h
  | cons next text =>
    obtain ⟨_, -, h⟩ := Option.bind_eq_some_iff.mp h
    obtain ⟨_, -, h⟩ := Option.bind_eq_some_iff.mp h
    obtain ⟨_, -, h⟩ := Option.bind_eq_some_iff.mp h
    obtain ⟨_, -, h⟩ := Option.bind_eq_some_iff.mp h
    cases h
    rfl

/-- After the second half of a pair the rest of the string follows. -/
theorem exists_of_lowHalf? {body : List Char} (isBody : IsStringBody body) {n : Nat}
    (h : lowHalf? (body ++ '"' :: rest) = some (n, left)) :
    ∃ others, IsStringBody others ∧ left = others ++ '"' :: rest := by
  unfold lowHalf? at h
  split at h
  · next digits split =>
    obtain ⟨unit, -⟩ := Option.filter_eq_some_iff.mp h
    cases isBody with
    | nil => cases split
    | cons character others =>
      cases character with
      | plain _ noBackslash => exact absurd (List.cons.inj split).1 noBackslash
      | escape letter =>
        cases split
        simp at letter
      | unit =>
        cases split
        exact ⟨_, others, eq_of_codeUnit? unit⟩
  · cases h

/-- After an escape by code point the rest of the string follows. -/
theorem exists_of_readCodePoint? {a b c d x : Char} {body : List Char}
    (isBody : IsStringBody body)
    (h : readCodePoint? (a :: b :: c :: d :: (body ++ '"' :: rest)) = some (x, left)) :
    ∃ others, IsStringBody others ∧ left = others ++ '"' :: rest := by
  unfold readCodePoint? at h
  split at h
  · cases h
  · next unit after found =>
    obtain rfl := eq_of_codeUnit? found
    split at h
    · next low final half =>
      obtain rfl := (Prod.mk.inj (Option.some.inj h)).2
      split at half
      · exact exists_of_lowHalf? isBody half
      · cases half
    · cases h
      exact ⟨body, isBody, rfl⟩

/-- Each of the marks after a backslash stands for a character. -/
theorem exists_shortEscape? {e : Char} (letter : e ∈ ['"', '\\', '/', 'b', 'f', 'n', 'r', 't']) :
    ∃ c, shortEscape? e = some c := by
  simp only [List.mem_cons, List.not_mem_nil, or_false] at letter
  rcases letter with rfl | rfl | rfl | rfl | rfl | rfl | rfl | rfl <;> exact ⟨_, rfl⟩

/-- Reading takes a string up to its closing quote. -/
theorem eq_of_stringTail {opening body cs : List Char} (isBody : IsStringBody body)
    (h : stringTail opening steps (body ++ '"' :: rest) = .ok (cs, left)) : left = rest := by
  induction steps generalizing body cs with
  | zero => cases h
  | succ steps ih =>
    -- What is left after one character is the body of a string again.
    have goes {others : List Char} {f : List Char × List Char → List Char × List Char}
        (isBody : IsStringBody others)
        (h : (stringTail opening steps (others ++ '"' :: rest)).map f = .ok (cs, left))
        (keeps : ∀ read, (f read).2 = read.2) : left = rest := by
      obtain ⟨⟨ds, final⟩, read, same⟩ := Outcome.exists_of_map_eq_ok h
      have final' := keeps (ds, final)
      rw [same] at final'
      cases final'
      exact ih isBody read
    cases isBody with
    | nil =>
      cases h
      rfl
    | cons character others =>
      rw [List.append_assoc] at h
      cases character with
      | plain noQuote noBackslash visible =>
        rw [List.singleton_append, stringTail_plain _ _ noQuote noBackslash visible] at h
        exact goes others h fun _ => rfl
      | escape letter =>
        obtain ⟨x, short⟩ := exists_shortEscape? letter
        rw [List.cons_append, List.singleton_append, stringTail_escape _ _ short] at h
        exact goes others h fun _ => rfl
      | unit =>
        simp only [List.cons_append, List.nil_append] at h
        obtain ⟨x, after, point⟩ := exists_readCodePoint? h
        obtain ⟨more, isBody, rfl⟩ := exists_of_readCodePoint? others point
        rw [stringTail_codePoint _ _ point] at h
        exact goes isBody h fun _ => rfl

/-- Reading takes a string up to its closing quote. -/
theorem eq_of_readString {body : List Char} (isBody : IsStringBody body) {s : String}
    (h : readString (body ++ '"' :: rest) = .ok (s, left)) : left = rest := by
  obtain ⟨⟨cs, final⟩, read, same⟩ := Outcome.exists_of_map_eq_ok h
  cases same
  exact eq_of_stringTail isBody read

/-- A number that is read with exact fractions is an integer or a decimal number. -/
theorem exists_of_numberOf {negative : Bool} {whole fraction exponent : List Char} {v : Value}
    (h : numberOf .exact negative whole fraction exponent = .ok v) :
    (∃ n, v = .int n) ∨ ∃ d, v = .decimal d := by
  unfold numberOf at h
  dsimp only at h
  split at h
  · split at h
    · cases h
      exact .inl ⟨_, rfl⟩
    · cases h
  · split at h
    · cases h
      exact .inr ⟨_, rfl⟩
    · cases h

/-- A number of standard parts is finite. -/
theorem isFinite_of_numberOf {negative : Bool} {whole fraction exponent : List Char}
    (parts : AreParts whole fraction exponent) {v : Value}
    (h : numberOf .exact negative whole fraction exponent = .ok v) : AllScalars IsFinite v := by
  obtain ⟨first, others, rfl⟩ := List.exists_cons_of_ne_nil parts.nonempty
  have readable := isReadable_of_numberOf parts.digits parts.fractional.marks parts.power.marks h
  rcases exists_of_numberOf h with ⟨n, rfl⟩ | ⟨d, rfl⟩
  · trivial
  · cases d with
    | finite => exact rfl
    | _ => cases readable.1

/-- What reading takes off a text that starts with the text of a form: this text and no more of it,
and what it gives has finite scalars. What follows a value or a member cannot go on with it. -/
def TakesFinite : Form → List Char → Prop
  | .value, text => ∀ rest, EndsNumber rest → ∀ steps v left,
      readValue .exact steps (text ++ rest) = .ok (v, left) →
      left = rest ∧ AllScalars IsFinite v
  | .element, text => ∀ rest, Follows rest → ∀ steps v left,
      readValue .exact steps (skip (text ++ rest)) = .ok (v, left) →
      skip left = rest ∧ AllScalars IsFinite v
  | .items, text => ∀ rest steps items left,
      readItems .exact steps (skip (text ++ ']' :: rest)) = .ok (items, left) →
      left = rest ∧ AllItems IsFinite items
  | .member, text => ∀ rest, Follows rest → ∀ steps members left,
      readMembers .exact (steps + 1) (skip (text ++ rest)) = .ok (members, left) →
      ∃ name item, AllScalars IsFinite item ∧
        ((∃ tail, rest = '\x7d' :: tail ∧ members = [(.text name, item)] ∧ left = tail) ∨
          ∃ tail others, rest = ',' :: tail ∧ members = (.text name, item) :: others ∧
            readMembers .exact steps (skip tail) = .ok (others, left))
  | .members, text => ∀ rest steps members left,
      readMembers .exact steps (skip (text ++ '\x7d' :: rest)) = .ok (members, left) →
      left = rest ∧ AllMembers IsFinite members

section Steps

variable {text : List Char} {v : Value}

/-- A number is read up to its end. -/
theorem takesFinite_number (number : IsNumber text) : TakesFinite .value text := by
  obtain ⟨negative, whole, fraction, exponent, parts, rfl⟩ := number
  intro rest ends steps v left h
  cases steps with
  | zero => cases h
  | succ steps =>
    have read := parts.readPlain_append .exact negative ends
    obtain ⟨c, tail, start, plain⟩ := parts.exists_start negative rest
    rw [start] at read h
    rw [readValue_plain plain, read] at h
    obtain ⟨_, number, same⟩ := Outcome.exists_of_map_eq_ok h
    cases same
    exact ⟨rfl, isFinite_of_numberOf parts number⟩

/-- A word for null or a truth value is read up to its end. -/
theorem takesFinite_word (among : text ∈ ["null".toList, "true".toList, "false".toList]) :
    TakesFinite .value text := by
  intro rest ends steps v left h
  cases steps with
  | zero => cases h
  | succ steps =>
    simp only [List.mem_cons, List.not_mem_nil, or_false] at among
    rcases among with rfl | rfl | rfl <;> cases h <;> exact ⟨rfl, trivial⟩

/-- A string is read up to its closing quote. -/
theorem takesFinite_string (isBody : IsStringBody text) :
    TakesFinite .value ('"' :: (text ++ ['"'])) := by
  intro rest ends steps v left h
  cases steps with
  | zero => cases h
  | succ steps =>
    have split : '"' :: (text ++ ['"']) ++ rest = '"' :: (text ++ '"' :: rest) := by simp
    rw [split, readValue] at h
    obtain ⟨⟨s, after⟩, read, same⟩ := Outcome.exists_of_map_eq_ok h
    cases same
    exact ⟨eq_of_readString isBody read, trivial⟩

/-- A list without items is read up to its bracket. -/
theorem takesFinite_noItems (spaces : AreSpaces text) :
    TakesFinite .value ('[' :: (text ++ [']'])) := by
  intro rest ends steps v left h
  cases steps with
  | zero => cases h
  | succ steps =>
    have split : '[' :: (text ++ [']']) ++ rest = '[' :: (text ++ ']' :: rest) := by simp
    have skipped : skip (text ++ ']' :: rest) = ']' :: rest := by
      rw [spaces.skip_append, skip_mark (by simp)]
    rw [split, readValue, skipped] at h
    cases h
    exact ⟨rfl, trivial⟩

/-- An object without members is read up to its brace. -/
theorem takesFinite_noMembers (spaces : AreSpaces text) :
    TakesFinite .value ('\x7b' :: (text ++ ['\x7d'])) := by
  intro rest ends steps v left h
  cases steps with
  | zero => cases h
  | succ steps =>
    have split : '\x7b' :: (text ++ ['\x7d']) ++ rest = '\x7b' :: (text ++ '\x7d' :: rest) := by
      simp
    have skipped : skip (text ++ '\x7d' :: rest) = '\x7d' :: rest := by
      rw [spaces.skip_append, skip_mark (by simp)]
    rw [split, readValue, skipped] at h
    cases h
    exact ⟨rfl, List.Pairwise.nil, trivial⟩

/-- A list is read up to its bracket if its items are. -/
theorem takesFinite_list (standard : Standard .items text) (takes : TakesFinite .items text) :
    TakesFinite .value ('[' :: (text ++ [']'])) := by
  intro rest ends steps v left h
  cases steps with
  | zero => cases h
  | succ steps =>
    have split : '[' :: (text ++ [']']) ++ rest = '[' :: (text ++ ']' :: rest) := by simp
    obtain ⟨c, tail, start, isStart⟩ := standard.starts_skip (']' :: rest)
    have noBracket : c ≠ ']' := isStart.ne (by simp [IsStart])
    have inside := takes rest steps
    rw [start] at inside
    rw [split, readValue, start] at h
    split at h
    · next closing => exact absurd (List.cons.inj closing).1 noBracket
    · obtain ⟨⟨items, after⟩, read, same⟩ := Outcome.exists_of_map_eq_ok h
      cases same
      exact inside items left read

/-- An object is read up to its brace if its members are. -/
theorem takesFinite_object (standard : Standard .members text)
    (takes : TakesFinite .members text) :
    TakesFinite .value ('\x7b' :: (text ++ ['\x7d'])) := by
  intro rest ends steps v left h
  cases steps with
  | zero => cases h
  | succ steps =>
    have split : '\x7b' :: (text ++ ['\x7d']) ++ rest = '\x7b' :: (text ++ '\x7d' :: rest) := by
      simp
    obtain ⟨c, tail, start, isStart⟩ := standard.starts_skip ('\x7d' :: rest)
    have noBrace : c ≠ '\x7d' := isStart.ne (by simp [IsStart])
    have inside := takes rest steps
    rw [start] at inside
    rw [split, readValue, start] at h
    split at h
    · next closing => exact absurd (List.cons.inj closing).1 noBrace
    · obtain ⟨⟨members, after⟩, read, same⟩ := Outcome.exists_of_map_eq_ok h
      cases same
      obtain ⟨rfl, finite⟩ := inside members left read
      exact ⟨rfl, Value.allScalars_ofList finite⟩

/-- Spaces around a value are skipped. -/
theorem takesFinite_element {before after : List Char} (spaces : AreSpaces before)
    (standard : Standard .value text) (takes : TakesFinite .value text)
    (spaces' : AreSpaces after) : TakesFinite .element (before ++ (text ++ after)) := by
  intro rest follows steps v left h
  have starts := standard.starts.append (after ++ rest)
  rw [List.append_assoc, List.append_assoc, spaces.skip_append, starts.skip_eq] at h
  obtain ⟨rfl, finite⟩ := takes _ (spaces'.endsNumber follows) steps v left h
  rw [spaces'.skip_append, follows.skip_eq]
  exact ⟨rfl, finite⟩

/-- The last item is read up to the bracket after it. -/
theorem takesFinite_lastItem (takes : TakesFinite .element text) : TakesFinite .items text := by
  intro rest steps items left h
  cases steps with
  | zero => cases h
  | succ steps =>
    have closes : Follows (']' :: rest) := .cons (by simp) rest
    rw [readItems] at h
    split at h
    · cases h
    · next item after read =>
      obtain ⟨closing, finite⟩ := takes _ closes steps item after read
      rw [closing] at h
      cases h
      exact ⟨rfl, finite, trivial⟩

/-- Items after a comma are read up to the bracket after them. -/
theorem takesFinite_moreItems {others : List Char} (takes : TakesFinite .element text)
    (takesMore : TakesFinite .items others) : TakesFinite .items (text ++ ',' :: others) := by
  intro rest steps items left h
  cases steps with
  | zero => cases h
  | succ steps =>
    have comma : Follows (',' :: (others ++ ']' :: rest)) := .cons (by simp) _
    rw [List.append_assoc, List.cons_append, readItems] at h
    split at h
    · cases h
    · next item after read =>
      obtain ⟨separator, finite⟩ := takes _ comma steps item after read
      rw [separator] at h
      obtain ⟨⟨more, final⟩, readMore, same⟩ := Outcome.exists_of_map_eq_ok h
      cases same
      obtain ⟨rfl, finiteMore⟩ := takesMore rest steps more left readMore
      exact ⟨rfl, finite, finiteMore⟩

/-- A member is read up to what follows its value, which ends the members or leads to more. -/
theorem takesFinite_member {before name after : List Char} (spaces : AreSpaces before)
    (isBody : IsStringBody name) (spaces' : AreSpaces after) (takes : TakesFinite .element text) :
    TakesFinite .member (before ++ '"' :: (name ++ '"' :: (after ++ ':' :: text))) := by
  intro rest follows steps members left h
  have split : before ++ '"' :: (name ++ '"' :: (after ++ ':' :: text)) ++ rest =
      before ++ '"' :: (name ++ '"' :: (after ++ ':' :: (text ++ rest))) := by simp
  have skipped (tail : List Char) : skip ('"' :: tail) = '"' :: tail := rfl
  have colon (tail : List Char) : skip (after ++ ':' :: tail) = ':' :: tail := by
    rw [spaces'.skip_append, skip_mark (by simp)]
  rw [split, spaces.skip_append, skipped, readMembers] at h
  split at h
  · cases h
  · next s afterName read =>
    obtain rfl := eq_of_readString isBody read
    rw [colon] at h
    split at h
    · next body same =>
      cases same
      split at h
      · cases h
      · next item afterItem readItem =>
        obtain ⟨mark, finite⟩ := takes rest follows steps item afterItem readItem
        rw [mark] at h
        refine ⟨s, item, finite, ?_⟩
        split at h
        · cases h
          exact .inl ⟨_, rfl, rfl, rfl⟩
        · obtain ⟨⟨others, final⟩, readMore, same⟩ := Outcome.exists_of_map_eq_ok h
          cases same
          exact .inr ⟨_, others, rfl, rfl, readMore⟩
        · cases h
    · next noColon => exact absurd rfl (noColon _)

/-- The last member is read up to the brace after it. -/
theorem takesFinite_lastMember (takes : TakesFinite .member text) :
    TakesFinite .members text := by
  intro rest steps members left h
  cases steps with
  | zero => cases h
  | succ steps =>
    have closes : Follows ('\x7d' :: rest) := .cons (by simp) rest
    obtain ⟨name, item, finite, ⟨tail, closing, rfl, rfl⟩ | ⟨tail, others, comma, -⟩⟩ :=
      takes _ closes steps members left h
    · cases closing
      exact ⟨rfl, ⟨name, rfl⟩, finite, trivial⟩
    · cases comma

/-- Members after a comma are read up to the brace after them. -/
theorem takesFinite_moreMembers {others : List Char} (takes : TakesFinite .member text)
    (takesMore : TakesFinite .members others) : TakesFinite .members (text ++ ',' :: others) := by
  intro rest steps members left h
  cases steps with
  | zero => cases h
  | succ steps =>
    have comma : Follows (',' :: (others ++ '\x7d' :: rest)) := .cons (by simp) _
    rw [List.append_assoc, List.cons_append] at h
    obtain ⟨name, item, finite, ⟨tail, closing, -⟩ | ⟨tail, more, separator, rfl, readMore⟩⟩ :=
      takes _ comma steps members left h
    · cases closing
    · cases separator
      obtain ⟨rfl, finiteMore⟩ := takesMore rest steps more left readMore
      exact ⟨rfl, ⟨name, rfl⟩, finite, finiteMore⟩

end Steps

/-- Reading takes the text of any form of standard JSON. -/
theorem Standard.takesFinite {form : Form} {text : List Char} (standard : Standard form text) :
    TakesFinite form text := by
  induction standard with
  | word among => exact takesFinite_word among
  | number number => exact takesFinite_number number
  | string isBody => exact takesFinite_string isBody
  | noItems spaces => exact takesFinite_noItems spaces
  | list items ih => exact takesFinite_list items ih
  | noMembers spaces => exact takesFinite_noMembers spaces
  | object members ih => exact takesFinite_object members ih
  | element before value after ih => exact takesFinite_element before value ih after
  | lastItem _ ih => exact takesFinite_lastItem ih
  | moreItems _ _ ih ih' => exact takesFinite_moreItems ih ih'
  | member before name after _ ih => exact takesFinite_member before name after ih
  | lastMember _ ih => exact takesFinite_lastMember ih
  | moreMembers _ _ ih ih' => exact takesFinite_moreMembers ih ih'

/-- What is read from standard JSON has finite scalars. -/
theorem allScalars_of_isStandard {text : String} (standard : IsStandard text) {v : Value}
    (h : read text = .ok v) : AllScalars IsFinite v := by
  have takes := Standard.takesFinite standard [] .nil
  rw [List.append_nil] at takes
  unfold read readChars at h
  split at h
  · cases h
  · split at h
    · cases h
    · next value after inside =>
      obtain ⟨-, finite⟩ := takes _ value after inside
      split at h
      · cases h
        exact finite
      · cases h

end Reading

end Stencil.Json
