import Stencil.Proofs.Json.Reading

/-!
# The grammar of standard JSON

A text is standard if it is made by the rules of the standard alone: words for null and the truth
values, numbers, strings, lists and objects, with spaces around each of them. There are no words for
numbers in it.
-/

namespace Stencil.Json

/-- Characters that may stand around a value. -/
def AreSpaces (text : List Char) : Prop := ∀ c ∈ text, c ∈ [' ', '\t', '\n', '\r']

/-- A digit of base sixteen, in either case. -/
def IsHexDigit (c : Char) : Prop := c.isDigit ∨ ('a' ≤ c ∧ c ≤ 'f') ∨ ('A' ≤ c ∧ c ≤ 'F')

/-- How one character of a string may be written. -/
inductive IsCharacter : List Char → Prop
  /-- As it is. -/
  | plain {c : Char} : c ≠ '"' → c ≠ '\\' → 32 ≤ c.toNat → IsCharacter [c]
  /-- By a letter or a mark after a backslash. -/
  | escape {e : Char} : e ∈ ['"', '\\', '/', 'b', 'f', 'n', 'r', 't'] → IsCharacter ['\\', e]
  /-- By its code unit. -/
  | unit {a b c d : Char} : IsHexDigit a → IsHexDigit b → IsHexDigit c → IsHexDigit d →
    IsCharacter ['\\', 'u', a, b, c, d]

/-- What may stand between the quotes of a string. -/
inductive IsStringBody : List Char → Prop
  /-- Nothing. -/
  | nil : IsStringBody []
  /-- A character and more of them. -/
  | cons {first rest : List Char} : IsCharacter first → IsStringBody rest →
    IsStringBody (first ++ rest)

/-- A number: an optional minus sign and its parts. -/
def IsNumber (text : List Char) : Prop :=
  ∃ negative whole fraction exponent, AreParts whole fraction exponent ∧
    text = Decimal.signText negative ++ (whole ++ (fraction ++ exponent))

/-- What the rules of the grammar are about. -/
inductive Form where
  /-- A value. -/
  | value
  /-- A value with the spaces around it. -/
  | element
  /-- The items of a list, of which there is at least one. -/
  | items
  /-- A member of an object with the spaces around it. -/
  | member
  /-- The members of an object, of which there is at least one. -/
  | members

/-- A text has a form by the rules of the grammar. -/
inductive Standard : Form → List Char → Prop
  /-- A word for null or a truth value. -/
  | word {text : List Char} : text ∈ ["null".toList, "true".toList, "false".toList] →
    Standard .value text
  /-- A number. -/
  | number {text : List Char} : IsNumber text → Standard .value text
  /-- A string. -/
  | string {body : List Char} : IsStringBody body → Standard .value ('"' :: (body ++ ['"']))
  /-- A list without items. -/
  | noItems {spaces : List Char} : AreSpaces spaces → Standard .value ('[' :: (spaces ++ [']']))
  /-- A list. -/
  | list {items : List Char} : Standard .items items → Standard .value ('[' :: (items ++ [']']))
  /-- An object without members. -/
  | noMembers {spaces : List Char} : AreSpaces spaces →
    Standard .value ('\x7b' :: (spaces ++ ['\x7d']))
  /-- An object. -/
  | object {members : List Char} : Standard .members members →
    Standard .value ('\x7b' :: (members ++ ['\x7d']))
  /-- A value and the spaces around it. -/
  | element {before value after : List Char} : AreSpaces before → Standard .value value →
    AreSpaces after → Standard .element (before ++ (value ++ after))
  /-- The last item. -/
  | lastItem {item : List Char} : Standard .element item → Standard .items item
  /-- An item, a comma and more items. -/
  | moreItems {item others : List Char} : Standard .element item → Standard .items others →
    Standard .items (item ++ ',' :: others)
  /-- A name, a colon and a value. -/
  | member {before name after item : List Char} : AreSpaces before → IsStringBody name →
    AreSpaces after → Standard .element item →
    Standard .member (before ++ '"' :: (name ++ '"' :: (after ++ ':' :: item)))
  /-- The last member. -/
  | lastMember {member : List Char} : Standard .member member → Standard .members member
  /-- A member, a comma and more members. -/
  | moreMembers {member others : List Char} : Standard .member member →
    Standard .members others → Standard .members (member ++ ',' :: others)

/-- A text of standard JSON: a value and the spaces around it. -/
def IsStandard (text : String) : Prop := Standard .element text.toList

/-- No character is a space. -/
theorem AreSpaces.nil : AreSpaces [] := List.forall_mem_nil _

/-- The space of a layout consists of spaces. -/
theorem areSpaces_gap (layout : Layout) : AreSpaces layout.gap := by
  cases layout with
  | spaced =>
    intro c among
    rw [List.mem_singleton.mp among]
    decide
  | compact => exact .nil

/-- Spaces are skipped. -/
theorem AreSpaces.skip_append {spaces : List Char} (all : AreSpaces spaces) (rest : List Char) :
    skip (spaces ++ rest) = skip rest := by
  refine List.dropWhile_append_of_pos fun c among => ?_
  have space := all c among
  simp only [List.mem_cons, List.not_mem_nil, or_false] at space
  rcases space with rfl | rfl | rfl | rfl <;> rfl

/-- Nothing is skipped of what may follow a value. -/
theorem Follows.skip_eq {rest : List Char} (follows : Follows rest) : skip rest = rest := by
  cases rest with
  | nil => rfl
  | cons c rest =>
    have marks : [',', ']', '\x7d'] ⊆ [',', ':', ']', '\x7d'] := by decide
    exact skip_mark (marks (follows c rfl)) rest

/-- What follows spaces and a value may follow the value itself. -/
theorem AreSpaces.endsNumber {spaces rest : List Char} (all : AreSpaces spaces)
    (follows : Follows rest) : EndsNumber (spaces ++ rest) := by
  cases spaces with
  | nil => exact follows.endsNumber
  | cons space others =>
    intro c hc
    cases hc
    have kind := all space List.mem_cons_self
    simp only [List.mem_cons, List.not_mem_nil, or_false] at kind
    rcases kind with rfl | rfl | rfl | rfl <;> decide

/-- A number starts as a value does. -/
theorem IsNumber.starts {text : List Char} (number : IsNumber text) : Starts text := by
  obtain ⟨negative, whole, fraction, exponent, parts, rfl⟩ := number
  cases negative with
  | true => exact ⟨'-', _, rfl, .inr (by simp)⟩
  | false =>
    obtain ⟨c, others, rfl⟩ := List.exists_cons_of_ne_nil parts.nonempty
    exact ⟨c, _, rfl, .inl (parts.digits c List.mem_cons_self)⟩

/-- A value of the grammar starts as every value does. -/
theorem Standard.starts {text : List Char} (standard : Standard .value text) : Starts text := by
  cases standard with
  | word among =>
    simp only [List.mem_cons, List.not_mem_nil, or_false] at among
    rcases among with rfl | rfl | rfl
    · exact ⟨'n', _, rfl, .inr (by simp)⟩
    · exact ⟨'t', _, rfl, .inr (by simp)⟩
    · exact ⟨'f', _, rfl, .inr (by simp)⟩
  | number number => exact number.starts
  | string => exact ⟨'"', _, rfl, .inr (by simp)⟩
  | noItems | list => exact ⟨'[', _, rfl, .inr (by simp)⟩
  | noMembers | object => exact ⟨'\x7b', _, rfl, .inr (by simp)⟩

/-- Items and members start as values do once spaces are skipped. -/
theorem Standard.starts_skip {form : Form} {text : List Char} (standard : Standard form text)
    (rest : List Char) : Starts (skip (text ++ rest)) := by
  have unskipped {value : List Char} (standard : Standard .value value) (rest : List Char) :
      Starts (skip (value ++ rest)) := by
    have starts := standard.starts.append rest
    rwa [starts.skip_eq]
  induction standard generalizing rest with
  | word among => exact unskipped (.word among) rest
  | number number => exact unskipped (.number number) rest
  | string body => exact unskipped (.string body) rest
  | noItems spaces => exact unskipped (.noItems spaces) rest
  | list items => exact unskipped (.list items) rest
  | noMembers spaces => exact unskipped (.noMembers spaces) rest
  | object members => exact unskipped (.object members) rest
  | element before _ _ ih =>
    rw [List.append_assoc, List.append_assoc, before.skip_append]
    exact ih _
  | lastItem _ ih => exact ih rest
  | moreItems _ _ ih =>
    rw [List.append_assoc]
    exact ih _
  | member before =>
    rw [List.append_assoc, before.skip_append]
    exact ⟨'"', _, rfl, .inr (by simp)⟩
  | lastMember _ ih => exact ih rest
  | moreMembers _ _ ih =>
    rw [List.append_assoc]
    exact ih _

end Stencil.Json
