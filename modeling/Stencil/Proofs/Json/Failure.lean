import Stencil.Json.Printer
import Stencil.Json.Reader
import Stencil.Proofs.Outcome

/-!
# Failures of JSON text

Reading stops at a fault in the text, or at a number that is well formed but cannot be held: an
integer with too many digits, or a decimal number whose exponent is out of bounds. Writing fails
only by a breakdown, at what has no form in JSON or is too long to be written.
-/

namespace Stencil

/-- A failure that no message describes. -/
def Failure.IsBreakdown (failure : Failure) : Prop := ∃ d, failure = .defect d

namespace Json

open Outcome (FailsOnly)

/-- A stop at a fault, or at a number that exact reading cannot hold. -/
def IsExactStop : Stop → Prop
  | .fault .. => True
  | .defect d => d = .value ∨ d = .invalidOperation

/-- A string stops at a fault only. -/
theorem failsOnly_stringTail (opening : List Char) (steps : Nat) (cs : List Char) :
    FailsOnly IsExactStop (stringTail opening steps cs) := by
  fun_induction stringTail opening steps cs with
  | case1 | case2 | case4 | case5 | case6 | case8 => exact .error trivial
  | case3 => exact .ok _
  | case7 _ _ _ _ _ _ _ ih => exact ih.map _
  | case9 _ _ _ _ _ _ _ _ ih => exact ih.map _
  | case10 _ _ _ _ _ _ ih => exact ih.map _

/-- A string stops at a fault only. -/
theorem failsOnly_readString (rest : List Char) : FailsOnly IsExactStop (readString rest) :=
  (failsOnly_stringTail _ _ rest).map _

/-- A number of given parts can be held or not. -/
theorem failsOnly_numberOf (negative : Bool) (whole fraction exponent : List Char) :
    FailsOnly IsExactStop (numberOf .exact negative whole fraction exponent) := by
  unfold numberOf
  dsimp only
  split
  · split
    · exact .ok _
    · exact .error (.inl rfl)
  · split
    · exact .ok _
    · exact .error (.inr rfl)

/-- A number without digits is a fault. -/
theorem failsOnly_readNumber (start : List Char) (negative : Bool) (body : List Char) :
    FailsOnly IsExactStop (readNumber .exact start negative body) := by
  unfold readNumber
  split
  · exact .error trivial
  · exact (failsOnly_numberOf _ _ _ _).map _

/-- What is neither a word nor a number is a fault. -/
theorem failsOnly_readPlain (cs : List Char) : FailsOnly IsExactStop (readPlain .exact cs) := by
  unfold readPlain
  split
  · exact .ok _
  · split <;> exact failsOnly_readNumber _ _ _

/-- Reading with some steps stops in these ways only. -/
structure Stops (steps : Nat) : Prop where
  /-- In a value. -/
  value : ∀ cs, FailsOnly IsExactStop (readValue .exact steps cs)
  /-- In the items of a list. -/
  items : ∀ cs, FailsOnly IsExactStop (readItems .exact steps cs)
  /-- In the members of an object. -/
  members : ∀ cs, FailsOnly IsExactStop (readMembers .exact steps cs)

section

variable {steps : Nat}

/-- A value stops where what it starts with does. -/
theorem Stops.readValue (stops : Stops steps) (cs : List Char) :
    FailsOnly IsExactStop (readValue .exact (steps + 1) cs) := by
  rw [Json.readValue.eq_def]
  dsimp only
  split
  · exact (failsOnly_readString _).map _
  · split
    · exact .ok _
    · exact (stops.items _).map _
  · split
    · exact .ok _
    · exact (stops.members _).map _
  · exact failsOnly_readPlain cs

/-- Items stop where one of them does, or where a comma is missing. -/
theorem Stops.readItems (stops : Stops steps) (cs : List Char) :
    FailsOnly IsExactStop (readItems .exact (steps + 1) cs) := by
  rw [Json.readItems]
  split
  · next stop read => exact .error (stops.value _ _ read)
  · split
    · exact .ok _
    · exact (stops.items _).map _
    · exact .error trivial

/-- Members stop where a name or a value does, or where a mark between them is missing. -/
theorem Stops.readMembers (stops : Stops steps) (cs : List Char) :
    FailsOnly IsExactStop (readMembers .exact (steps + 1) cs) := by
  rw [Json.readMembers.eq_def]
  dsimp only
  split
  · split
    · next stop read => exact .error (failsOnly_readString _ _ read)
    · split
      · split
        · next stop read => exact .error (stops.value _ _ read)
        · split
          · exact .ok _
          · exact (stops.members _).map _
          · exact .error trivial
      · exact .error trivial
  · exact .error trivial

end

/-- Whatever the number of steps, reading stops in these ways only. -/
theorem stops (steps : Nat) : Stops steps := by
  induction steps with
  | zero => exact ⟨fun _ => .error trivial, fun _ => .error trivial, fun _ => .error trivial⟩
  | succ steps ih => exact ⟨ih.readValue, ih.readItems, ih.readMembers⟩

/-- Such a stop is reported as a fault in the text or as the breakdown that it is. -/
theorem failureOf_cases (text : List Char) {stop : Stop} (known : IsExactStop stop) :
    (∃ fault, failureOf text stop = .json fault) ∨
      ∃ d, (d = .value ∨ d = .invalidOperation) ∧ failureOf text stop = .defect d := by
  cases stop with
  | fault problem rest => exact .inl ⟨_, rfl⟩
  | defect d => exact .inr ⟨d, known, rfl⟩

/-- Reading a text fails by a fault in it or by a number that cannot be held. -/
theorem failsOnly_read (s : String) :
    FailsOnly (fun failure => (∃ fault, failure = .json fault) ∨
      ∃ d, (d = .value ∨ d = .invalidOperation) ∧ failure = .defect d) (read s) := by
  unfold read readChars
  split
  · exact .error (failureOf_cases _ trivial)
  · split
    · next stop read => exact .error (failureOf_cases _ ((stops _).value _ _ read))
    · split
      · exact .ok _
      · exact .error (failureOf_cases _ trivial)

section Writing

/-- An integer is written or breaks down. -/
theorem breaksOnly_intChars (n : Int) : FailsOnly Failure.IsBreakdown (intChars n) := by
  unfold intChars
  split
  · exact .error ⟨_, rfl⟩
  · exact .ok _

/-- A decimal number is written or breaks down. -/
theorem breaksOnly_decimalChars (d : Decimal) : FailsOnly Failure.IsBreakdown (decimalChars d) := by
  unfold decimalChars wholeChars
  cases d with
  | finite negative coefficient exponent =>
    dsimp only
    split
    · split
      · exact .ok _
      · split
        · exact .error ⟨_, rfl⟩
        · exact breaksOnly_intChars _
    · exact .ok _
  | infinite negative => exact .ok _
  | undefined negative signaling payload =>
    dsimp only
    split
    · exact .error ⟨_, rfl⟩
    · exact .ok _

mutual

/-- A value is written or breaks down. -/
theorem breaksOnly_writeChars (layout : Layout) (v : Value) :
    FailsOnly Failure.IsBreakdown (writeChars layout v) := by
  cases v with
  | int n => exact breaksOnly_intChars n
  | decimal d => exact breaksOnly_decimalChars d
  | moment | bytes | set => exact .error ⟨_, rfl⟩
  | pair first second =>
    exact (breaksOnly_writeChars layout first).bind fun _ =>
      (breaksOnly_writeChars layout second).bind fun _ => .ok _
  | list items => exact (breaksOnly_writeItems layout items).bind fun _ => .ok _
  | object members => exact (breaksOnly_writeMembers layout members).bind fun _ => .ok _
  | _ => exact .ok _
  termination_by structural v

/-- The same of items. -/
theorem breaksOnly_writeItems (layout : Layout) (items : List Value) :
    FailsOnly Failure.IsBreakdown (writeItems layout items) := by
  cases items with
  | nil => exact .ok _
  | cons item rest =>
    exact (breaksOnly_writeChars layout item).bind fun _ =>
      (breaksOnly_writeItems layout rest).bind fun _ => .ok _
  termination_by structural items

/-- The same of members. -/
theorem breaksOnly_writeMembers (layout : Layout) (members : List (Key × Value)) :
    FailsOnly Failure.IsBreakdown (writeMembers layout members) := by
  cases members with
  | nil => exact .ok _
  | cons member rest =>
    obtain ⟨key, item⟩ := member
    have name : FailsOnly Failure.IsBreakdown (keyText key) := by
      cases key with
      | int n => exact (breaksOnly_intChars n).map String.ofList
      | _ => exact .ok _
    exact name.bind fun _ => (breaksOnly_writeChars layout item).bind fun _ =>
      (breaksOnly_writeMembers layout rest).bind fun _ => .ok _
  termination_by structural members

end

/-- A text of a value is written or breaks down. -/
theorem breaksOnly_write (layout : Layout) (v : Value) :
    FailsOnly Failure.IsBreakdown (write layout v) :=
  (breaksOnly_writeChars layout v).map String.ofList

end Writing

end Json

end Stencil
