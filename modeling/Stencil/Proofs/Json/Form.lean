import Stencil.Json.Printer
import Stencil.Proofs.Decimal.Text
import Stencil.Proofs.Outcome
import Stencil.Proofs.Value.Fields
import Stencil.Proofs.Value.Scalars

/-!
# Values that JSON text has a form for

The kinds of values that JSON has a form for, and the same value with an integer in place of every
decimal number without a fraction, as which such a number is written. Both have the same text.

Beside the scalars of JSON the numbers that words stand for have a form: the undefined number and
the infinities. All that reading a text gives is made of such scalars, and all that is made of them
can be written, unless one of its integers has too many digits.
-/

namespace Stencil.Json

mutual

/-- A value of the kinds that JSON has a form for: null, truth values, integers, finite decimal
numbers, texts, lists, and objects whose keys are different texts. -/
def IsJson : Value → Prop
  | .null => True
  | .bool _ => True
  | .int _ => True
  | .decimal d => d.IsAdmitted
  | .text _ => True
  | .list items => AreJson items
  | .object members => Fields.AreDistinct members ∧ HoldJson members
  | _ => False
  termination_by structural v => v

/-- Every item is of these kinds. -/
def AreJson : List Value → Prop
  | [] => True
  | item :: rest => IsJson item ∧ AreJson rest
  termination_by structural items => items

/-- Every key is a text, and every member is of these kinds. -/
def HoldJson : List (Key × Value) → Prop
  | [] => True
  | (key, item) :: rest => (∃ name, key = .text name) ∧ IsJson item ∧ HoldJson rest
  termination_by structural members => members

end

/-- Items are of the kinds that JSON has a form for if each one is. -/
theorem areJson_iff {items : List Value} : AreJson items ↔ ∀ item ∈ items, IsJson item := by
  induction items with
  | nil => exact ⟨fun _ => nofun, fun _ => trivial⟩
  | cons item rest ih => rw [List.forall_mem_cons, ← ih, AreJson]

/-- Members are of these kinds if each one is, under a text. -/
theorem holdJson_iff {members : List (Key × Value)} :
    HoldJson members ↔
      ∀ member ∈ members, (∃ name, member.1 = .text name) ∧ IsJson member.2 := by
  induction members with
  | nil => exact ⟨fun _ => nofun, fun _ => trivial⟩
  | cons member rest ih => rw [List.forall_mem_cons, ← ih, HoldJson, and_assoc]

/-- A finite decimal number without a fraction as the integer of the same value. -/
def integralDecimal : Decimal → Value
  | .finite negative coefficient exponent =>
    if 0 ≤ exponent then
      .int (Decimal.signed negative (coefficient * Number.pow10 exponent.toNat))
    else .decimal (.finite negative coefficient exponent)
  | d => .decimal d

mutual

/-- The value with an integer in place of every finite decimal number without a fraction. -/
def integral : Value → Value
  | .decimal d => integralDecimal d
  | .list items => .list (integralItems items)
  | .object members => .object (integralMembers members)
  | .pair first second => .pair (integral first) (integral second)
  | v => v
  termination_by structural v => v

/-- The items, each with these integers. -/
def integralItems : List Value → List Value
  | [] => []
  | item :: rest => integral item :: integralItems rest
  termination_by structural items => items

/-- The members, each with these integers. -/
def integralMembers : List (Key × Value) → List (Key × Value)
  | [] => []
  | (key, item) :: rest => (key, integral item) :: integralMembers rest
  termination_by structural members => members

end

/-- Items become integers one by one. -/
theorem integralItems_eq_map (items : List Value) :
    integralItems items = items.map integral := by
  induction items with
  | nil => rfl
  | cons item rest ih => rw [integralItems, ih, List.map_cons]

/-- The keys stay the same. -/
theorem keys_integralMembers (members : List (Key × Value)) :
    (integralMembers members).map Prod.fst = members.map Prod.fst := by
  induction members with
  | nil => rfl
  | cons entry rest ih =>
    obtain ⟨key, item⟩ := entry
    rw [integralMembers, List.map_cons, List.map_cons, ih]

/-- A signed coefficient is as large as the coefficient. -/
theorem natAbs_signed (negative : Bool) (coefficient : Nat) :
    (Decimal.signed negative coefficient).natAbs = coefficient := by
  unfold Decimal.signed
  cases negative <;> simp

/-- A decimal number without a fraction is written as the integer of the same value. -/
theorem wholeChars_eq (negative : Bool) (coefficient k : Nat) :
    wholeChars negative coefficient k =
      intChars (Decimal.signed negative (coefficient * Number.pow10 k)) := by
  unfold wholeChars
  by_cases zero : coefficient = 0
  · have nothing : Decimal.signed negative (coefficient * Number.pow10 k) = 0 := by
      rw [zero, Nat.zero_mul]
      cases negative <;> rfl
    have short : Number.isLong 0 = false := Number.isLong_eq_false (Number.pow10_pos _)
    rw [if_pos zero, nothing, intChars_of_short short]
    rfl
  · have count := Number.digitCount_mul_pow10 (Nat.pos_of_ne_zero zero) k
    rw [if_neg zero]
    by_cases long : Number.digitLimit < Number.digitCount coefficient + k
    · have high : Number.pow10 Number.digitLimit ≤ coefficient * Number.pow10 k := by
        rw [← count] at long
        have above := mt (Number.digitCount_le_iff (by decide)).mpr (Nat.not_le_of_lt long)
        exact Nat.le_of_not_lt above
      have isLong : Number.isLong
          (Decimal.signed negative (coefficient * Number.pow10 k)) = true := by
        rw [Number.isLong, natAbs_signed]
        exact decide_eq_true high
      rw [if_pos long, intChars, if_pos isLong]
    · rw [if_neg long]

/-- A decimal number without a fraction has the text of its integer. -/
theorem writeChars_integralDecimal (layout : Layout) (d : Decimal) :
    writeChars layout (integralDecimal d) = decimalChars d := by
  cases d with
  | infinite => rfl
  | undefined => rfl
  | finite negative coefficient exponent =>
    rw [integralDecimal]
    by_cases whole : 0 ≤ exponent
    · rw [if_pos whole, writeChars, decimalChars, if_pos whole, wholeChars_eq]
    · rw [if_neg whole, writeChars]

mutual

/-- A value has the same text with integers in place of decimal numbers without a fraction. -/
theorem writeChars_integral (layout : Layout) (v : Value) :
    writeChars layout (integral v) = writeChars layout v := by
  cases v with
  | decimal d => exact writeChars_integralDecimal layout d
  | list items => rw [integral, writeChars, writeChars, writeItems_integralItems layout items]
  | object members =>
    rw [integral, writeChars, writeChars, writeMembers_integralMembers layout members]
  | pair first second =>
    rw [integral, writeChars, writeChars, writeChars_integral layout first,
      writeChars_integral layout second]
  | _ => rfl
  termination_by structural v

/-- The same of items. -/
theorem writeItems_integralItems (layout : Layout) (items : List Value) :
    writeItems layout (integralItems items) = writeItems layout items := by
  cases items with
  | nil => rfl
  | cons item rest =>
    rw [integralItems, writeItems, writeItems, writeChars_integral layout item,
      writeItems_integralItems layout rest]
  termination_by structural items

/-- The same of members. -/
theorem writeMembers_integralMembers (layout : Layout) (members : List (Key × Value)) :
    writeMembers layout (integralMembers members) = writeMembers layout members := by
  cases members with
  | nil => rfl
  | cons entry rest =>
    cases entry with
    | mk key item =>
      rw [integralMembers, writeMembers, writeMembers, writeChars_integral layout item,
        writeMembers_integralMembers layout rest]
  termination_by structural members

end

end Stencil.Json

namespace Stencil.Json

open Value (AllScalars AllItems AllMembers)

/-- A scalar that is written as JSON text and read from it: null, a truth value, an integer, a
finite decimal number, a text, or a number that a word stands for. -/
def HasForm : Value → Prop
  | .null => True
  | .bool _ => True
  | .int _ => True
  | .decimal d => d.IsAdmitted
  | .binary .undefined => True
  | .binary (.infinite _) => True
  | .text _ => True
  | _ => False

mutual

/-- The scalars of a value of the kinds that JSON has a form for. -/
theorem hasForm_of_isJson (v : Value) (isJson : IsJson v) : AllScalars HasForm v := by
  cases v with
  | list items => exact hasForm_of_areJson items isJson
  | object members => exact ⟨isJson.1, hasForm_of_holdJson members isJson.2⟩
  | decimal d => exact isJson
  | null => trivial
  | bool b => trivial
  | int n => trivial
  | text s => trivial
  | _ => cases isJson
  termination_by structural v

/-- The same of items. -/
theorem hasForm_of_areJson (items : List Value) (areJson : AreJson items) :
    AllItems HasForm items := by
  cases items with
  | nil => trivial
  | cons item rest =>
    exact ⟨hasForm_of_isJson item areJson.1, hasForm_of_areJson rest areJson.2⟩
  termination_by structural items

/-- The same of members. -/
theorem hasForm_of_holdJson (members : List (Key × Value)) (holdJson : HoldJson members) :
    AllMembers HasForm members := by
  cases members with
  | nil => trivial
  | cons member rest =>
    obtain ⟨key, item⟩ := member
    obtain ⟨named, isJson, others⟩ := holdJson
    exact ⟨named, hasForm_of_isJson item isJson, hasForm_of_holdJson rest others⟩
  termination_by structural members

end

variable {p : Value → Prop}

/-- A decimal number stays a scalar. -/
theorem allScalars_integralDecimal_iff (d : Decimal) :
    AllScalars p (integralDecimal d) ↔ p (integralDecimal d) := by
  cases d with
  | finite negative coefficient exponent =>
    rw [integralDecimal]
    split <;> exact Iff.rfl
  | _ => exact Iff.rfl

mutual

/-- The scalars of the value with integers in place of whole decimal numbers are those of the value
with integers in their place. -/
theorem allScalars_integral_iff (v : Value) (formed : AllScalars HasForm v) :
    AllScalars p (integral v) ↔ AllScalars (fun s => p (integral s)) v := by
  cases v with
  | decimal d => exact allScalars_integralDecimal_iff d
  | list items => exact allItems_integralItems_iff items formed
  | object members =>
    have keys : Fields.AreDistinct (integralMembers members) ↔ Fields.AreDistinct members := by
      rw [Fields.AreDistinct, keys_integralMembers]
      exact Iff.rfl
    exact and_congr keys (allMembers_integralMembers_iff members formed.2)
  | pair => cases formed
  | _ => exact Iff.rfl
  termination_by structural v

/-- The same of items. -/
theorem allItems_integralItems_iff (items : List Value) (formed : AllItems HasForm items) :
    AllItems p (integralItems items) ↔ AllItems (fun s => p (integral s)) items := by
  cases items with
  | nil => exact Iff.rfl
  | cons item rest =>
    exact and_congr (allScalars_integral_iff item formed.1)
      (allItems_integralItems_iff rest formed.2)
  termination_by structural items

/-- The same of members. -/
theorem allMembers_integralMembers_iff (members : List (Key × Value))
    (formed : AllMembers HasForm members) :
    AllMembers p (integralMembers members) ↔ AllMembers (fun s => p (integral s)) members := by
  cases members with
  | nil => exact Iff.rfl
  | cons member rest =>
    obtain ⟨key, item⟩ := member
    exact and_congr Iff.rfl (and_congr (allScalars_integral_iff item formed.2.1)
      (allMembers_integralMembers_iff rest formed.2.2))
  termination_by structural members

end

end Stencil.Json
