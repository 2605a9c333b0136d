import Stencil.Proofs.Decimal.Finite
import Stencil.Proofs.Json.Readable
import Stencil.Proofs.Json.RoundTrip

/-!
# What can be written

A value of ordinary scalars is written, unless one of its integers has too many digits or one of its
decimal numbers is signaling. The decimal numbers without a fraction count as integers here, for
they are written as such: a short text can be read as a number whose integer is too long to be
written.

Calculations and casts make decimal numbers that JSON text has no form for: infinite and undefined
ones. They are written as the words of the binary numbers of the same kind. So a value that has
such numbers beside the scalars of a form is read again from its text, though not as itself.
-/

namespace Stencil.Json

open Value (AllScalars AllItems AllMembers)

/-- A scalar of the kinds that a document holds or that is made from them: any but a date or time,
bytes, a set and a pair. -/
def IsOrdinary : Value → Prop
  | .moment _ => False
  | .bytes _ => False
  | .set _ => False
  | .pair .. => False
  | .list _ => False
  | .object _ => False
  | _ => True

/-- A scalar that can be written: no integer that is too long, no decimal number that stands for
one, and no signaling one. -/
def IsShown : Value → Prop
  | .int n => Number.isLong n = false
  | .decimal (.undefined _ signaling _) => signaling = false
  | .decimal d => (integralDecimal d).holdsLong = false
  | v => IsOrdinary v

/-- A result under a condition, and the breakdown of writing without it. -/
def FailsUnless {α : Type} (shown : Prop) (x : Outcome α) : Prop :=
  (shown → ∃ a, x = .ok a) ∧ (¬shown → x = Outcome.defect .value)

namespace FailsUnless

variable {α β : Type} {shown other : Prop} {x : Outcome α}

/-- A result where there is no condition. -/
theorem ok (holds : shown) (a : α) : FailsUnless shown (Except.ok a : Outcome α) :=
  ⟨fun _ => ⟨a, rfl⟩, fun not => absurd holds not⟩

/-- The breakdown where the condition cannot be met. -/
theorem defect (not : ¬shown) : FailsUnless shown (Outcome.defect .value : Outcome α) :=
  ⟨fun holds => absurd holds not, fun _ => rfl⟩

/-- The same under an equivalent condition. -/
theorem congr (h : FailsUnless shown x) (same : shown ↔ other) : FailsUnless other x := by
  rwa [propext same] at h

/-- A function of the result fails where the result does. -/
theorem map (h : FailsUnless shown x) (f : α → β) : FailsUnless shown (x.map f) := by
  constructor
  · intro holds
    obtain ⟨a, rfl⟩ := h.1 holds
    exact ⟨f a, rfl⟩
  · intro not
    rw [h.2 not]
    rfl

/-- Two steps fail where one of them does. -/
theorem bind {next : α → Outcome β} (first : FailsUnless shown x)
    (second : ∀ a, FailsUnless other (next a)) : FailsUnless (shown ∧ other) (x >>= next) := by
  constructor
  · rintro ⟨holds, holds'⟩
    obtain ⟨a, rfl⟩ := first.1 holds
    exact (second a).1 holds'
  · intro not
    by_cases holds : shown
    · obtain ⟨a, rfl⟩ := first.1 holds
      exact (second a).2 fun holds' => not ⟨holds, holds'⟩
    · rw [first.2 holds]
      rfl

end FailsUnless

/-- An integer is written unless it is too long. -/
theorem failsUnless_intChars (n : Int) : FailsUnless (Number.isLong n = false) (intChars n) := by
  unfold intChars
  cases Number.isLong n with
  | false => exact .ok rfl _
  | true => exact .defect nofun

/-- A decimal number is written unless it stands for an integer that is too long or is signaling. -/
theorem failsUnless_decimalChars (d : Decimal) :
    FailsUnless (IsShown (.decimal d)) (decimalChars d) := by
  cases d with
  | infinite negative => exact .ok rfl _
  | undefined negative signaling payload =>
    cases signaling with
    | false => exact .ok rfl _
    | true =>
      refine .defect fun shown => ?_
      cases shown
  | finite negative coefficient exponent =>
    rw [IsShown, integralDecimal, decimalChars]
    · by_cases whole : 0 ≤ exponent
      · rw [if_pos whole, wholeChars_eq, if_pos whole]
        exact failsUnless_intChars _
      · rw [if_neg whole, if_neg whole]
        exact .ok rfl _
    · intro negative signaling payload same
      cases same

mutual

/-- A value of ordinary scalars is written if each of them can be, and breaks down otherwise. -/
theorem failsUnless_writeChars (layout : Layout) (v : Value) (ordinary : AllScalars IsOrdinary v) :
    FailsUnless (AllScalars IsShown v) (writeChars layout v) := by
  cases v with
  | null => exact .ok trivial _
  | bool b => exact .ok trivial _
  | int n => exact failsUnless_intChars n
  | decimal d => exact failsUnless_decimalChars d
  | binary x => exact .ok trivial _
  | text s => exact .ok trivial _
  | list items => exact (failsUnless_writeItems layout items ordinary).map _
  | object members =>
    refine FailsUnless.congr ((failsUnless_writeMembers layout members ordinary.2).map _) ?_
    exact (and_iff_right ordinary.1).symm
  | _ => cases ordinary
  termination_by structural v

/-- The same of items. -/
theorem failsUnless_writeItems (layout : Layout) (items : List Value)
    (ordinary : AllItems IsOrdinary items) :
    FailsUnless (AllItems IsShown items) (writeItems layout items) := by
  cases items with
  | nil => exact .ok trivial _
  | cons item rest =>
    exact (failsUnless_writeChars layout item ordinary.1).bind fun _ =>
      (failsUnless_writeItems layout rest ordinary.2).map _
  termination_by structural items

/-- The same of members. -/
theorem failsUnless_writeMembers (layout : Layout) (members : List (Key × Value))
    (ordinary : AllMembers IsOrdinary members) :
    FailsUnless (AllMembers IsShown members) (writeMembers layout members) := by
  cases members with
  | nil => exact .ok trivial _
  | cons member rest =>
    obtain ⟨key, item⟩ := member
    obtain ⟨⟨name, rfl⟩, first, others⟩ := ordinary
    suffices written : FailsUnless (AllScalars IsShown item ∧ AllMembers IsShown rest)
        (writeMembers layout ((.text name, item) :: rest)) from
      written.congr (and_iff_right ⟨name, rfl⟩).symm
    exact (failsUnless_writeChars layout item first).bind fun _ =>
      (failsUnless_writeMembers layout rest others).map _
  termination_by structural members

end

/-- What has a form is ordinary. -/
theorem isOrdinary_of_hasForm {v : Value} (formed : HasForm v) : IsOrdinary v := by
  cases v with
  | moment | bytes | set | pair | list | object => cases formed
  | _ => trivial

/-- A scalar that has a form can be written exactly if the integer that it stands for is short. -/
theorem isShown_iff (v : Value) (formed : HasForm v) :
    IsShown v ↔ (integral v).holdsLong = false := by
  cases v with
  | decimal d =>
    cases d with
    | undefined => cases formed
    | _ => exact Iff.rfl
  | moment | bytes | set | pair | list | object => cases formed
  | int n => exact Iff.rfl
  | _ => exact ⟨fun _ => rfl, fun _ => trivial⟩

mutual

/-- A value of scalars that have a form can be written exactly if it holds no number that is too
long. -/
theorem allScalars_isShown_iff (v : Value) (formed : AllScalars HasForm v) :
    AllScalars IsShown v ↔ (integral v).holdsLong = false := by
  cases v with
  | list items => exact allItems_isShown_iff items formed
  | object members =>
    exact (and_iff_right formed.1).trans (allMembers_isShown_iff members formed.2)
  | null => exact isShown_iff .null formed
  | bool b => exact isShown_iff (.bool b) formed
  | int n => exact isShown_iff (.int n) formed
  | decimal d => exact isShown_iff (.decimal d) formed
  | binary x => exact isShown_iff (.binary x) formed
  | text s => exact isShown_iff (.text s) formed
  | _ => cases formed
  termination_by structural v

/-- The same of items. -/
theorem allItems_isShown_iff (items : List Value) (formed : AllItems HasForm items) :
    AllItems IsShown items ↔ Value.anyLong (integralItems items) = false := by
  cases items with
  | nil => exact ⟨fun _ => rfl, fun _ => trivial⟩
  | cons item rest =>
    rw [AllItems, allScalars_isShown_iff item formed.1, allItems_isShown_iff rest formed.2,
      integralItems, Value.anyLong, Bool.or_eq_false_iff]
  termination_by structural items

/-- The same of members. -/
theorem allMembers_isShown_iff (members : List (Key × Value))
    (formed : AllMembers HasForm members) :
    AllMembers IsShown members ↔ Value.anyMemberLong (integralMembers members) = false := by
  cases members with
  | nil => exact ⟨fun _ => rfl, fun _ => trivial⟩
  | cons member rest =>
    obtain ⟨key, item⟩ := member
    obtain ⟨⟨name, rfl⟩, first, others⟩ := formed
    have named : (∃ other, Key.text name = .text other) := ⟨name, rfl⟩
    have key : Value.keyIsLong (.text name) = false := rfl
    rw [AllMembers, allScalars_isShown_iff item first, allMembers_isShown_iff rest others,
      integralMembers, Value.anyMemberLong, key, Bool.false_or, Bool.or_eq_false_iff]
    exact and_iff_right named
  termination_by structural members

end

variable {v : Value}

/-- A value that has a form is one of ordinary scalars. -/
theorem allScalars_isOrdinary (formed : AllScalars HasForm v) : AllScalars IsOrdinary v :=
  AllScalars.mono (fun _ => isOrdinary_of_hasForm) v formed

/-- A value of ordinary scalars that can be written is written, in either layout. -/
theorem exists_write (layout : Layout) (ordinary : AllScalars IsOrdinary v)
    (shown : AllScalars IsShown v) : ∃ text, write layout v = .ok text := by
  obtain ⟨chars, written⟩ := (failsUnless_writeChars layout v ordinary).1 shown
  exact ⟨String.ofList chars, by rw [write, written]; rfl⟩

/-- A value of ordinary scalars one of which cannot be written is not written. -/
theorem write_eq_defect (layout : Layout) (ordinary : AllScalars IsOrdinary v)
    (hidden : ¬AllScalars IsShown v) : write layout v = Outcome.defect .value := by
  rw [write, (failsUnless_writeChars layout v ordinary).2 hidden]
  rfl

/-- What is written is read again, with integers in place of the decimal numbers without a
fraction. -/
theorem read_write_of_hasForm {layout : Layout} {text : String} (formed : AllScalars HasForm v)
    (written : write layout v = .ok text) : read text = .ok (integral v) := by
  obtain ⟨chars, spelled, rfl⟩ := Outcome.exists_of_map_eq_ok written
  rw [read, String.toList_ofList]
  exact readChars_writeChars_of_hasForm formed spelled

/-- A value that has a form and can be written comes back from its text. -/
theorem exists_write_read (layout : Layout) (formed : AllScalars HasForm v)
    (shown : AllScalars IsShown v) :
    ∃ text, write layout v = .ok text ∧ read text = .ok (integral v) := by
  obtain ⟨text, written⟩ := exists_write layout (allScalars_isOrdinary formed) shown
  exact ⟨text, written, read_write_of_hasForm formed written⟩

/-- A scalar that is read again once it is written: one that has a form, or a decimal number that is
within the limits of a text as far as it is finite. -/
def IsKept : Value → Prop
  | .decimal d => d.IsWithin
  | v => HasForm v

/-- A scalar that has a form is read again. -/
theorem isKept_of_hasForm {v : Value} (formed : HasForm v) : IsKept v := by
  cases v with
  | decimal d => exact Decimal.IsAdmitted.isWithin formed
  | _ => exact formed

/-- A scalar that is read again is ordinary. -/
theorem isOrdinary_of_isKept {v : Value} (kept : IsKept v) : IsOrdinary v := by
  cases v with
  | decimal d => trivial
  | _ => exact isOrdinary_of_hasForm kept

/-- A decimal number that is written is spelled as a scalar that has a form. -/
theorem exists_hasForm_decimal {d : Decimal} (within : d.IsWithin) (shown : IsShown (.decimal d)) :
    ∃ w, AllScalars HasForm w ∧ ∀ layout, writeChars layout w = decimalChars d := by
  cases d with
  | finite negative coefficient exponent =>
    have formed : AllScalars HasForm (.decimal (.finite negative coefficient exponent)) := within
    exact ⟨_, formed, fun _ => rfl⟩
  | infinite negative => exact ⟨.binary (.infinite negative), trivial, fun _ => rfl⟩
  | undefined negative signaling payload =>
    cases signaling with
    | false => exact ⟨.binary .undefined, trivial, fun _ => rfl⟩
    | true => cases shown

mutual

/-- A value of such scalars that can be written is spelled as a value that has a form. -/
theorem exists_hasForm (v : Value) (kept : AllScalars IsKept v) (shown : AllScalars IsShown v) :
    ∃ w, AllScalars HasForm w ∧ ∀ layout, writeChars layout w = writeChars layout v := by
  cases v with
  | list items =>
    obtain ⟨others, formed, same⟩ := exists_hasForm_items items kept shown
    refine ⟨.list others, formed, fun layout => ?_⟩
    rw [writeChars, writeChars, same]
  | object members =>
    obtain ⟨others, keys, formed, same⟩ := exists_hasForm_members members kept.2 shown.2
    refine ⟨.object others, ⟨?_, formed⟩, fun layout => ?_⟩
    · rw [Fields.AreDistinct, keys]
      exact kept.1
    · rw [writeChars, writeChars, same]
  | decimal d => exact exists_hasForm_decimal kept shown
  | null => exact ⟨.null, trivial, fun _ => rfl⟩
  | bool b => exact ⟨.bool b, trivial, fun _ => rfl⟩
  | int n => exact ⟨.int n, trivial, fun _ => rfl⟩
  | text s => exact ⟨.text s, trivial, fun _ => rfl⟩
  | binary x => exact ⟨.binary x, kept, fun _ => rfl⟩
  | _ => cases kept
  termination_by structural v

/-- The same of items. -/
theorem exists_hasForm_items (items : List Value) (kept : AllItems IsKept items)
    (shown : AllItems IsShown items) :
    ∃ others, AllItems HasForm others ∧
      ∀ layout, writeItems layout others = writeItems layout items := by
  cases items with
  | nil => exact ⟨[], trivial, fun _ => rfl⟩
  | cons item rest =>
    obtain ⟨w, formed, same⟩ := exists_hasForm item kept.1 shown.1
    obtain ⟨others, restFormed, restSame⟩ := exists_hasForm_items rest kept.2 shown.2
    refine ⟨w :: others, ⟨formed, restFormed⟩, fun layout => ?_⟩
    rw [writeItems, writeItems, same, restSame]
  termination_by structural items

/-- The same of members, under the same keys. -/
theorem exists_hasForm_members (members : List (Key × Value)) (kept : AllMembers IsKept members)
    (shown : AllMembers IsShown members) :
    ∃ others, others.map Prod.fst = members.map Prod.fst ∧ AllMembers HasForm others ∧
      ∀ layout, writeMembers layout others = writeMembers layout members := by
  cases members with
  | nil => exact ⟨[], rfl, trivial, fun _ => rfl⟩
  | cons member rest =>
    obtain ⟨key, item⟩ := member
    obtain ⟨named, first, later⟩ := kept
    obtain ⟨-, firstShown, laterShown⟩ := shown
    obtain ⟨w, formed, same⟩ := exists_hasForm item first firstShown
    obtain ⟨others, keys, restFormed, restSame⟩ := exists_hasForm_members rest later laterShown
    refine ⟨(key, w) :: others, ?_, ⟨named, formed, restFormed⟩, fun layout => ?_⟩
    · rw [List.map_cons, List.map_cons, keys]
    · rw [writeMembers, writeMembers, same, restSame]
  termination_by structural members

end

/-- A value that has a form is read again. -/
theorem allScalars_isKept (formed : AllScalars HasForm v) : AllScalars IsKept v :=
  AllScalars.mono (fun _ => isKept_of_hasForm) v formed

/-- A value that is read again is one of ordinary scalars. -/
theorem allScalars_isOrdinary_of_isKept (kept : AllScalars IsKept v) : AllScalars IsOrdinary v :=
  AllScalars.mono (fun _ => isOrdinary_of_isKept) v kept

/-- A value of such scalars that can be written is read again from its text. -/
theorem exists_write_read_of_isKept (layout : Layout) (kept : AllScalars IsKept v)
    (shown : AllScalars IsShown v) :
    ∃ text document, write layout v = .ok text ∧ read text = .ok document := by
  obtain ⟨text, written⟩ := exists_write layout (allScalars_isOrdinary_of_isKept kept) shown
  obtain ⟨w, formed, same⟩ := exists_hasForm v kept shown
  have spelled : write layout w = .ok text := by rw [write, same, ← write, written]
  exact ⟨text, integral w, written, read_write_of_hasForm formed spelled⟩

end Stencil.Json
