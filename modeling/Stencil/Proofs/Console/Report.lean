import Stencil.Console.Report
import Stencil.Proofs.Binary64.Precision
import Stencil.Proofs.Json.Display
import Stencil.Proofs.Json.Writable

/-!
# The digits of a displayed value

A value is displayed from its JSON text, of which fractions are read as binary numbers. What is
displayed can be read back, and it equals what the JSON text itself is read as exactly when every
fraction is the value of the shortest decimal of its nearest binary number. Fractions of at most
fifteen digits in the range of these numbers are; longer ones may lose digits.
-/

namespace Stencil.Console

open Number (pow10)
open Value (AllScalars mapScalars same)
open Json (IsJson HasForm IsReadable displayed spelled rounded integral)

/-- Whether a scalar that is read from a text has the value that it is displayed with. -/
def IsSpelled : Value → Prop
  | .decimal (.finite negative coefficient exponent) => ∃ significand scale,
    Binary64.ofScientific negative ⟨coefficient, exponent⟩ = .finite negative significand scale ∧
    Binary64.spelledValue significand scale = coefficient * 10 ^ exponent
  | .binary .undefined => False
  | _ => True

/-- Whether a scalar keeps its value when it is displayed: a fraction does if it is the value of the
shortest decimal of its nearest binary number, and every number without a fraction does. -/
def KeepsValue : Value → Prop
  | .decimal (.finite negative coefficient exponent) => 0 ≤ exponent ∨ ∃ significand scale,
    Binary64.ofScientific negative ⟨coefficient, exponent⟩ = .finite negative significand scale ∧
    Binary64.spelledValue significand scale = coefficient * 10 ^ exponent
  | .binary .undefined => False
  | _ => True

/-- A scalar keeps its value if what is read from its text is displayed with its value. -/
theorem isSpelled_integral_iff (s : Value) : IsSpelled (integral s) ↔ KeepsValue s := by
  cases s with
  | decimal d =>
    cases d with
    | finite negative coefficient exponent =>
      rw [integral, Json.integralDecimal, KeepsValue]
      split
      · next whole => exact iff_of_true trivial (.inl whole)
      · next fractional => exact (or_iff_right fractional).symm
    | _ => exact Iff.rfl
  | binary x => cases x <;> exact Iff.rfl
  | _ => exact Iff.rfl

/-- A fraction equals what it is displayed as if it has the value that is displayed. -/
theorem same_displayed_decimal_iff {negative : Bool} {coefficient : Nat} {exponent : Int} :
    same (displayed (.decimal (.finite negative coefficient exponent)))
        (.decimal (.finite negative coefficient exponent)) = true ↔
      IsSpelled (.decimal (.finite negative coefficient exponent)) := by
  unfold displayed rounded IsSpelled
  dsimp only
  cases nearest : Binary64.ofScientific negative ⟨coefficient, exponent⟩ with
  | finite negative' significand scale =>
    obtain ⟨rfl, formed, -⟩ := Binary64.of_ofScientific nearest
    obtain ⟨shown, power, read, value⟩ := Binary64.exists_read?_chars formed negative'
    have compared : same (spelled (.binary (.finite negative' significand scale)))
        (.decimal (.finite negative' coefficient exponent)) =
          (Decimal.compare? (.finite negative' shown power)
            (.finite negative' coefficient exponent) == some .eq) := by
      rw [spelled, read]
      rfl
    rw [compared, beq_iff_eq, Decimal.compare?_eq_some_eq_iff, value]
    constructor
    · intro same
      exact ⟨significand, scale, rfl, same⟩
    · rintro ⟨_, _, ⟨⟩, same⟩
      exact same
  | infinite negative' =>
    refine iff_of_false ?_ ?_
    · cases negative' <;> exact Bool.false_ne_true
    · rintro ⟨_, _, ⟨⟩, -⟩
  | undefined =>
    refine iff_of_false Bool.false_ne_true ?_
    rintro ⟨_, _, ⟨⟩, -⟩

/-- A scalar that is read from a text equals what it is displayed as if it has the value that is
displayed. -/
theorem same_displayed_iff {s : Value} (readable : IsReadable s) :
    same (displayed s) s = true ↔ IsSpelled s := by
  cases s with
  | null => exact iff_of_true rfl trivial
  | bool b => exact iff_of_true (decide_eq_true rfl) trivial
  | text s => exact iff_of_true (decide_eq_true rfl) trivial
  | int n =>
    have equal : Decimal.compare? (.ofInt n) (.ofInt n) = some .eq :=
      (Decimal.compare?_eq_some_eq_iff _).mpr rfl
    exact iff_of_true (beq_iff_eq.mpr equal) trivial
  | decimal d =>
    cases d with
    | finite => exact same_displayed_decimal_iff
    | _ => cases readable.1
  | binary x =>
    cases x with
    | finite => cases readable.1
    | infinite negative => exact iff_of_true (by cases negative <;> rfl) trivial
    | undefined => exact iff_of_false Bool.false_ne_true id
  | _ => cases readable.1

/-- Whether a fraction has at most fifteen digits, apart from zeros at their end, and is in the
range of the binary numbers of full precision. -/
def IsPrecise : Value → Prop
  | .decimal (.finite _ coefficient exponent) => 0 ≤ exponent ∨ coefficient = 0 ∨
    ∃ m k, m < pow10 15 ∧ coefficient = m * pow10 k ∧
      10 ^ (-307 : Int) ≤ (coefficient * 10 ^ exponent : ℚ) ∧
      (coefficient * 10 ^ exponent : ℚ) < 10 ^ (308 : Int)
  | .binary .undefined => False
  | _ => True

/-- Fifteen digits are kept. -/
theorem keepsValue_of_isPrecise {s : Value} (precise : IsPrecise s) : KeepsValue s := by
  cases s with
  | decimal d =>
    cases d with
    | finite negative coefficient exponent =>
      refine precise.imp_right fun precise => ?_
      by_cases zero : coefficient = 0
      · subst zero
        refine ⟨0, Binary64.minExponent, ?_, ?_⟩
        · rw [Binary64.ofScientific, if_pos rfl]
          rfl
        · rw [Binary64.spelledValue, if_pos rfl]
          simp
      · obtain ⟨m, k, few, rfl, low, high⟩ := precise.resolve_left zero
        have positive : 0 < m := Nat.pos_of_ne_zero fun none => zero (by rw [none, Nat.zero_mul])
        exact Binary64.exists_spelledValue_eq positive few low high negative
    | _ => trivial
  | binary x =>
    cases x with
    | undefined => exact precise
    | _ => trivial
  | _ => trivial

/-- A value is displayed as what its JSON text is read as, with each fraction rounded. -/
theorem jsonBlock_eq_map {v document : Value} {text : String}
    (written : Json.write .spaced v = .ok text) (read : Json.read text = .ok document) :
    jsonBlock v = (Json.pretty (mapScalars rounded document)).map (· ++ "\n") := by
  have binary := Json.readChars_binary read
  unfold jsonBlock
  rw [written, Outcome.ok_bind, binary, Outcome.ok_bind]
  rfl

/-- A value is displayed from its JSON text, and what is displayed is read as what the text is read
as, with each fraction rounded to a binary number and spelled by its shortest decimal. -/
theorem exists_jsonBlock {v : Value} (formed : AllScalars HasForm v) {text : String}
    (written : Json.write .spaced v = .ok text) :
    ∃ printed, jsonBlock v = .ok printed ∧ Json.read text = .ok (integral v) ∧
      Json.read printed = .ok (mapScalars displayed (integral v)) := by
  have read := Json.read_write_of_hasForm formed written
  obtain ⟨chars, shown, reread⟩ := Json.exists_pretty_read (Json.allScalars_of_read read)
  refine ⟨chars ++ "\n", ?_, read, reread⟩
  rw [jsonBlock_eq_map written read, shown]
  rfl

/-- What a value of the kinds of JSON is displayed as can be read back as what its JSON text is read
as, but for its fractions. The two are equal, all numbers being compared as exact decimals, exactly
when every fraction keeps its value, as every one of at most fifteen digits in range does. -/
theorem exists_jsonBlock_same_iff {v : Value} (isJson : IsJson v) {text : String}
    (written : Json.write .spaced v = .ok text) :
    ∃ printed document, jsonBlock v = .ok printed ∧ Json.read text = .ok document ∧
      Json.read printed = .ok (mapScalars displayed document) ∧
      (same (mapScalars displayed document) document = true ↔ AllScalars KeepsValue v) ∧
      (AllScalars IsPrecise v → same (mapScalars displayed document) document = true) := by
  have formed := Json.hasForm_of_isJson v isJson
  obtain ⟨printed, shown, read, reread⟩ := exists_jsonBlock formed written
  have same_iff : same (mapScalars displayed (integral v)) (integral v) = true ↔
      AllScalars KeepsValue v := by
    rw [Value.same_mapScalars_iff (fun s readable => same_displayed_iff readable) _
      (Json.allScalars_of_read read), Json.allScalars_integral_iff v formed]
    exact ⟨Value.AllScalars.mono (fun s => (isSpelled_integral_iff s).mp) v,
      Value.AllScalars.mono (fun s => (isSpelled_integral_iff s).mpr) v⟩
  refine ⟨printed, integral v, shown, read, reread, same_iff, fun precise => ?_⟩
  exact same_iff.mpr (Value.AllScalars.mono (fun s => keepsValue_of_isPrecise) v precise)

/-- A price of four digits keeps its value. -/
theorem exists_jsonBlock_same_iff_price :
    let price : Value := .decimal (.finite false 1999 (-2))
    let item : Value := .object [(.text "price", price)]
    IsJson item ∧ Json.write .spaced item = .ok "\x7b\"price\": 19.99\x7d" ∧
      ∃ printed document, jsonBlock item = .ok printed ∧
        Json.read "\x7b\"price\": 19.99\x7d" = .ok document ∧
        Json.read printed = .ok (mapScalars displayed document) ∧
        same (mapScalars displayed document) document = true := by
  intro price item
  have distinct : Fields.AreDistinct [(.text "price", price)] := List.pairwise_singleton _ _
  have isJson : IsJson item := ⟨distinct, ⟨_, rfl⟩, ⟨by decide, by decide⟩, trivial⟩
  have written : Json.write .spaced item = .ok "\x7b\"price\": 19.99\x7d" := rfl
  have precise : IsPrecise price := by
    refine .inr (.inr ⟨1999, 0, by decide, rfl, ?_, ?_⟩)
    · calc (10 : ℚ) ^ (-307 : Int) ≤ 1 := zpow_le_one_of_nonpos₀ (by norm_num) (by norm_num)
        _ ≤ (1999 : Nat) * 10 ^ (-2 : Int) := by norm_num
    · calc ((1999 : Nat) * 10 ^ (-2 : Int) : ℚ) < 10 ^ (2 : Int) := by norm_num
        _ ≤ 10 ^ (308 : Int) := zpow_le_zpow_right₀ (by norm_num) (by norm_num)
  obtain ⟨printed, document, shown, read, reread, -, keeps⟩ :=
    exists_jsonBlock_same_iff isJson written
  exact ⟨isJson, written, printed, document, shown, read, reread,
    keeps ⟨distinct, ⟨_, rfl⟩, precise, trivial⟩⟩

/-- A fraction of nineteen digits loses two of them when it is displayed. -/
theorem not_same_displayed_of_long :
    let long : Value := .decimal (.finite false 1234567890123456789 (-19))
    let shorter : Value := .decimal (.finite false 12345678901234568 (-17))
    IsJson long ∧ Json.write .spaced long = .ok "0.1234567890123456789" ∧
      jsonBlock long = .ok "0.12345678901234568\n" ∧
      Json.read "0.1234567890123456789" = .ok long ∧
      Json.read "0.12345678901234568\n" = .ok shorter ∧ same shorter long = false := by
  intro long shorter
  have written : Json.write .spaced long = .ok "0.1234567890123456789" := rfl
  have read : Json.read "0.1234567890123456789" = .ok long := rfl
  have nearest : Binary64.ofScientific false ⟨1234567890123456789, -19⟩ =
      .finite false 8895999183877727 (-56) := by decide +kernel
  have shortest : Binary64.shortest 8895999183877727 (-56) = (12345678901234568, -17) := by
    decide +kernel
  have chars : Binary64.chars (.finite false 8895999183877727 (-56)) =
      "0.12345678901234568".toList := by
    rw [Binary64.chars, Binary64.magnitudeText, if_neg (by decide), shortest]
    rfl
  have rounds : mapScalars rounded long = .binary (.finite false 8895999183877727 (-56)) :=
    congrArg Value.binary nearest
  have shown : jsonBlock long = .ok "0.12345678901234568\n" := by
    have printed (significand : Nat) (exponent : Int) :
        Json.pretty (.binary (.finite false significand exponent)) =
          .ok (String.ofList (Binary64.chars (.finite false significand exponent))) := rfl
    rw [jsonBlock_eq_map written read, rounds, printed, chars]
    rfl
  refine ⟨⟨by decide, by decide⟩, written, shown, read, rfl, ?_⟩
  decide +kernel

end Stencil.Console
