import Mathlib.Data.List.TakeDrop
import Stencil.Path.Select
import Stencil.Proofs.Number.Integer
import Stencil.Proofs.Outcome
import Stencil.Proofs.Text.Blank

/-!
# Queries of one place

The query of a place in a list that is a member of the document. It gives the item at the place, or
null beyond the last item; a place that is too long to be read is a breakdown instead.
-/

namespace Stencil

namespace Path

/-- A name that a query may hold without quotes. -/
structure IsBareName (name : String) : Prop where
  /-- It starts like a name. -/
  starts : ∃ c cs, name.toList = c :: cs ∧ startsName c = true
  /-- It goes on like a name. -/
  goesOn : name.toList.all continuesName = true
  /-- It is no other word. -/
  free : reservedWords.contains name = false

/-- The query of a place in the list that a member of the document is. -/
def placePath (name : String) (place : Nat) : String :=
  "$." ++ name ++ "[" ++ String.ofList (Number.digits place) ++ "]"

/-- The characters of the query. -/
theorem toList_placePath (name : String) (place : Nat) :
    (placePath name place).toList =
      '$' :: '.' :: (name.toList ++ '[' :: (Number.digits place ++ [']'])) := by
  simp [placePath]

section

variable {steps : Nat} {c : Char} {cs : List Char}

/-- A token that starts a text without a space comes first. -/
theorem tokensFrom_succ {rest : List Char} {token : Token} (visible : isSpace c = false)
    (read : readToken (c :: cs) = .ok (token, rest)) :
    tokensFrom (steps + 1) (c :: cs) = (tokensFrom steps rest).map (token :: ·) := by
  have body : (c :: cs).dropWhile isSpace = c :: cs :=
    List.dropWhile_cons_of_neg (by simp [visible])
  simp only [tokensFrom, body, read]

/-- A text without a space that starts with no token has none. -/
theorem tokensFrom_fault {fault : TokenFault} (visible : isSpace c = false)
    (read : readToken (c :: cs) = .error fault) :
    tokensFrom (steps + 1) (c :: cs) = .error fault := by
  have body : (c :: cs).dropWhile isSpace = c :: cs :=
    List.dropWhile_cons_of_neg (by simp [visible])
  simp only [tokensFrom, body, read]

end

/-- The character that starts a name is no sign and no space. -/
theorem visible_of_startsName {c : Char} (h : startsName c = true) :
    c ≠ '@' ∧ c ≠ '.' ∧ isSpace c = false := by
  refine ⟨?_, ?_, ?_⟩
  · rintro rfl
    cases h
  · rintro rfl
    cases h
  · rw [Bool.eq_false_iff]
    intro space
    simp only [isSpace, Bool.or_eq_true, decide_eq_true_eq] at space
    rcases space with (rfl | rfl) | rfl <;> cases h

/-- A text that does not start with the sign of the value at hand starts with a name if its first
character does. -/
theorem nameStarts_cons {c : Char} (other : c ≠ '@') (cs : List Char) :
    nameStarts (c :: cs) = startsName c := by
  unfold nameStarts
  split
  · next same => exact absurd (List.cons.inj same).1 other
  · next same => rw [(List.cons.inj same).1]
  · next same => cases same

/-- A bare name in front of a bracket is read as one token. -/
theorem readToken_bareName {name : String} (bare : IsBareName name) (rest : List Char) :
    readToken (name.toList ++ '[' :: rest) = .ok (.name name, '[' :: rest) := by
  obtain ⟨c, cs, split, starts⟩ := bare.starts
  have begins : nameStarts (name.toList ++ '[' :: rest) = true := by
    rw [split, List.cons_append, nameStarts_cons (visible_of_startsName starts).1, starts]
  have opened : readToken (name.toList ++ '[' :: rest) =
      .ok (readName (name.toList ++ '[' :: rest)) := by
    rw [split, List.cons_append] at begins ⊢
    rw [readToken, if_pos begins]
  have goesOn := List.all_eq_true.mp bare.goesOn
  have word : (name.toList ++ '[' :: rest).takeWhile continuesName = name.toList := by
    rw [List.takeWhile_append_of_pos goesOn, List.takeWhile_cons_of_neg (by decide),
      List.append_nil]
  have others : (name.toList ++ '[' :: rest).dropWhile continuesName = '[' :: rest := by
    rw [List.dropWhile_append_of_pos goesOn, List.dropWhile_cons_of_neg (by decide)]
  rw [opened, readName, word, others, String.ofList_toList, bare.free]
  rfl

/-- A point in front of a name is read as a step. -/
theorem readToken_dot {c : Char} (other : c ≠ '.') (rest : List Char) :
    readToken ('.' :: c :: rest) = .ok (.dot, c :: rest) := by
  have sign : readSign? ('.' :: c :: rest) = some (.dot, c :: rest) := by
    rw [readSign?]
    rintro after same
    exact other (List.cons.inj same).1
  have noName : nameStarts ('.' :: c :: rest) = false := nameStarts_cons (by decide) _
  have noDigit : (Text.digitValue? '.').isSome = false := by decide
  have noMinus : '.' ≠ '-' := by decide
  have noQuote : ('.' = '\'' || '.' = '"') = false := by decide
  simp only [readToken, noName, noDigit, noMinus, noQuote, sign, Bool.false_eq_true, if_false]

/-- The tokens of the query up to its place. -/
theorem tokensFrom_upToPlace {name : String} (bare : IsBareName name) (steps : Nat)
    (rest : List Char) :
    tokensFrom (steps + 4) ('$' :: '.' :: (name.toList ++ '[' :: rest)) =
      (tokensFrom steps rest).map ([.dollar, .dot, .name name, .opening] ++ ·) := by
  obtain ⟨c, cs, split, starts⟩ := bare.starts
  obtain ⟨-, noDot, visible⟩ := visible_of_startsName starts
  have word := readToken_bareName bare rest
  rw [split, List.cons_append] at word ⊢
  rw [tokensFrom_succ rfl rfl, tokensFrom_succ rfl (readToken_dot noDot _)]
  rw [tokensFrom_succ visible word, tokensFrom_succ rfl rfl]
  cases tokensFrom steps rest <;> rfl

/-- A digit starts no name. -/
theorem startsName_of_isDigit {c : Char} (digit : c.isDigit) : startsName c = false := by
  obtain ⟨low, high⟩ := Number.toNat_of_isDigit digit
  have all : ∀ n : Fin 10, startsName (Char.ofNat (48 + n)) = false := by decide
  have value := all ⟨c.toNat - 48, by omega⟩
  rwa [Nat.add_sub_cancel' low, Char.ofNat_toNat] at value

/-- Digits in front of a bracket end there. -/
theorem spanDigits_digits (place : Nat) (rest : List Char) :
    spanDigits (Number.digits place ++ ']' :: rest) = (Number.digits place, ']' :: rest) := by
  have all : ∀ c ∈ Number.digits place, (Text.digitValue? c).isSome = true := by
    intro c among
    rw [Number.digitValue?_of_isDigit (Number.areDigits_digits place c among)]
    rfl
  have other : ¬(Text.digitValue? ']').isSome = true := by decide
  have noMore : (']' :: rest).takeWhile (fun c => (Text.digitValue? c).isSome) = [] :=
    List.takeWhile_cons_of_neg other
  have remain : (']' :: rest).dropWhile (fun c => (Text.digitValue? c).isSome) = ']' :: rest :=
    List.dropWhile_cons_of_neg other
  rw [spanDigits, List.span_eq_takeWhile_dropWhile, List.takeWhile_append_of_pos all,
    List.dropWhile_append_of_pos all, noMore, remain, List.append_nil]

/-- Digits in front of a bracket are the number that they spell, if it can be read. -/
theorem readToken_digits (place : Nat) (rest : List Char) :
    readToken (Number.digits place ++ ']' :: rest) =
      match Number.readInteger? (Number.digits place) with
      | some n => .ok (.integer n, ']' :: rest)
      | none => .error .tooLong := by
  obtain ⟨d, ds, split⟩ := List.exists_cons_of_ne_nil (Number.digits_ne_nil place)
  have digit : d.isDigit := Number.areDigits_digits place d (by simp [split])
  have noName : nameStarts (d :: (ds ++ ']' :: rest)) = false := by
    rw [nameStarts_cons (Number.ne_of_isDigit digit rfl), startsName_of_isDigit digit]
  have isDigit : (Text.digitValue? d).isSome = true := by
    rw [Number.digitValue?_of_isDigit digit]
    rfl
  have opened : readToken (Number.digits place ++ ']' :: rest) =
      readNumber false (Number.digits place ++ ']' :: rest) := by
    rw [split, List.cons_append, readToken, noName, isDigit]
    rfl
  have nonempty : (Number.digits place).isEmpty = false := by rw [split]; rfl
  rw [opened, readNumber, spanDigits_digits]
  simp only [nonempty, Bool.false_eq_true, if_false]
  rfl

/-- What follows the opening bracket as tokens: the place, if it can be read, and the closing
bracket. -/
theorem tokensFrom_place (steps : Nat) (place : Nat) :
    tokensFrom (steps + 2) (Number.digits place ++ [']']) =
      match Number.readInteger? (Number.digits place) with
      | some n => .ok [.integer n, .closing]
      | none => .error .tooLong := by
  have number := readToken_digits place []
  obtain ⟨d, ds, split⟩ := List.exists_cons_of_ne_nil (Number.digits_ne_nil place)
  have digit : d.isDigit := Number.areDigits_digits place d (by simp [split])
  have visible : isSpace d = false := by
    simp [isSpace, Number.ne_of_isDigit digit]
  cases value : Number.readInteger? (Number.digits place) with
  | none =>
    rw [value, split, List.cons_append] at number
    rw [split, List.cons_append, tokensFrom_fault visible number]
  | some n =>
    rw [value, split, List.cons_append] at number
    rw [split, List.cons_append, tokensFrom_succ visible number, tokensFrom_succ rfl rfl]
    cases steps <;> rfl

/-- The query as tokens. -/
theorem tokens_placePath {name : String} (bare : IsBareName name) (place : Nat) :
    tokens (placePath name place).toList =
      match Number.readInteger? (Number.digits place) with
      | some n => .ok [.dollar, .dot, .name name, .opening, .integer n, .closing]
      | none => .error .tooLong := by
  obtain ⟨steps, enough⟩ : ∃ steps, (placePath name place).toList.length = steps + 2 + 4 := by
    obtain ⟨c, cs, split, -⟩ := bare.starts
    have digits := List.length_pos_iff.mpr (Number.digits_ne_nil place)
    refine ⟨cs.length + ((Number.digits place).length - 1), ?_⟩
    simp only [toList_placePath, split, List.length_cons, List.length_append, List.length_nil]
    omega
  rw [tokens, enough, toList_placePath, tokensFrom_upToPlace bare, tokensFrom_place]
  cases Number.readInteger? (Number.digits place) <;> rfl

/-- No blank stands at the ends of the query. -/
theorem trim_placePath (name : String) (place : Nat) :
    Text.trim (placePath name place).toList = (placePath name place).toList := by
  have whole : (placePath name place).toList =
      [] ++ ('$' :: ('.' :: (name.toList ++ '[' :: Number.digits place)) ++ [']']) ++ [] := by
    simp [toList_placePath]
  rw [whole, Text.trim_surrounded (by simp) (by simp) _ (by decide) (by decide), List.append_nil,
    List.nil_append]

/-- A bare name is not the asterisk, which stands for all members. -/
theorem IsBareName.ne_asterisk {name : String} (bare : IsBareName name) : name ≠ "*" := by
  rintro rfl
  have goesOn := bare.goesOn
  cases goesOn

/-- The tokens of the query are a member and an item of it. -/
theorem parse?_place (name : String) (n : Int) :
    parse? [.dollar, .dot, .name name, .opening, .integer n, .closing] =
      some [.root, .members [name], .items [n]] := rfl

/-- A member that is a list and a place in it select the item there, or nothing. -/
theorem select_place {name : String} {members : List (Key × Value)} {items : List Value}
    (found : Fields.find? members name = some (.list items)) (place : Nat) :
    select [.root, .members [name], .items [(place : Int)]] (.object members) =
      .ok items[place]?.toList := by
  have item : itemAt? items (place : Int) = items[place]? := by
    rw [itemAt?, if_pos (Int.natCast_nonneg place), Int.toNat_natCast]
  have chosen : [(place : Int)].filterMap (itemAt? items) = items[place]?.toList := by
    rw [List.filterMap_cons, item]
    cases items[place]? <;> rfl
  simp [select, queryValues, stepValues, membersOf, found, itemsAt, chosen]

/-- The query of a place gives the item there, or null beyond the last item. -/
theorem read_placePath {name : String} (bare : IsBareName name) {place : Nat}
    (short : Number.isLong place = false) {members : List (Key × Value)} {items : List Value}
    (found : Fields.find? members name = some (.list items)) :
    read (.object members) (placePath name place) = .ok (items[place]?.getD .null) := by
  have value := Number.readInteger?_intText short
  rw [Number.intText_natCast] at value
  have query : read? (placePath name place).toList =
      .ok (some [.root, .members [name], .items [(place : Int)]]) := by
    rw [read?, tokens_placePath bare, value]
    exact congrArg Except.ok (parse?_place name place)
  have definite : Query.isDefinite [.root, .members [name], .items [(place : Int)]] = true := by
    simp [Query.isDefinite, Step.isSingle, bare.ne_asterisk]
  rw [read, trim_placePath]
  simp only [query, result, select_place found, Outcome.ok_bind, definite, if_true]
  cases items[place]? <;> rfl

/-- The query of a place that is too long breaks down. -/
theorem read_placePath_of_isLong {name : String} (bare : IsBareName name) {place : Nat}
    (long : Number.isLong place = true) (document : Value) :
    read document (placePath name place) = Outcome.defect .value := by
  have fault : read? (placePath name place).toList = .error .tooLong := by
    rw [read?, tokens_placePath bare, Number.readInteger?_digits_of_isLong long]
    rfl
  rw [read, trim_placePath]
  simp only [fault]

end Path

end Stencil
