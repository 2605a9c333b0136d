import Stencil.Proofs.Binary64.Rounding
import Stencil.Proofs.Json.Writable
import Stencil.Proofs.Outcome
import Stencil.Settings

/-!
# Reading settings

What a settings file holds is taken for settings or refused with a problem and the name of the file.
Whatever counts as absent leaves everything at its default, and what else is no object is refused.

Reading an object breaks down in two ways. A numeric setting may be out of range: an infinity is no
integer, and an integer may be too large for a binary number. And a setting that is no number is
shown when it is refused, but a collection may hold an integer that is too long to be shown.
-/

namespace Stencil.Settings

open Value (AllScalars)

section Outcomes

variable {α β : Type} {source : String} {told : α → Prop} {refuses : ConfigProblem → Prop}
  {breaks : Defect → Prop}

/-- How reading a part of the settings may end: with a result, with a problem for which the part is
refused, or with a defect. -/
inductive Ends (source : String) (told : α → Prop) (refuses : ConfigProblem → Prop)
    (breaks : Defect → Prop) : Outcome α → Prop where
  /-- There is a result. -/
  | ok {a : α} (holds : told a) : Ends source told refuses breaks (.ok a)
  /-- The part is refused with a problem and the source. -/
  | refused {problem : ConfigProblem} (reason : refuses problem) :
    Ends source told refuses breaks (Outcome.fail (.config problem (some source)))
  /-- Reading breaks down. -/
  | broken {d : Defect} (reason : breaks d) :
    Ends source told refuses breaks (Outcome.defect d)

/-- Reading ends in one way, which is the only one that is told. -/
def IsRead (source : String) (told : α → Prop) (refuses : ConfigProblem → Prop)
    (breaks : Defect → Prop) (x : Outcome α) : Prop :=
  ∀ outcome, x = outcome ↔ Ends source told refuses breaks outcome

namespace IsRead

/-- A part that ends in some way, and in no other one that is told. -/
theorem of_ends {x : Outcome α} (ends : Ends source told refuses breaks x)
    (only : ∀ outcome, Ends source told refuses breaks outcome → x = outcome) :
    IsRead source told refuses breaks x :=
  fun outcome => ⟨fun same => same ▸ ends, only outcome⟩

/-- What is left when all parts are read. -/
theorem result (source : String) (a : α) :
    IsRead source (fun b => b = a) (fun _ => False) (fun _ => False) (.ok a) := by
  refine .of_ends (.ok rfl) ?_
  rintro _ (same | none | none)
  · rw [same]
  · exact none.elim
  · exact none.elim

/-- The same in other words. -/
theorem congr {told' : α → Prop} {refuses' : ConfigProblem → Prop} {breaks' : Defect → Prop}
    {x : Outcome α} (h : IsRead source told refuses breaks x) (results : ∀ a, told a ↔ told' a)
    (problems : ∀ problem, refuses problem ↔ refuses' problem)
    (defects : ∀ d, breaks d ↔ breaks' d) : IsRead source told' refuses' breaks' x := by
  rwa [← funext fun a => propext (results a), ← funext fun problem => propext (problems problem),
    ← funext fun d => propext (defects d)]

/-- A part that is read before the others decides, unless it has a result. -/
theorem bind {told' : α → β → Prop} {refuses' : α → ConfigProblem → Prop}
    {breaks' : α → Defect → Prop} {x : Outcome α} {next : α → Outcome β}
    (first : IsRead source told refuses breaks x)
    (second : ∀ a, told a → IsRead source (told' a) (refuses' a) (breaks' a) (next a)) :
    IsRead source (fun b => ∃ a, told a ∧ told' a b)
      (fun problem => refuses problem ∨ ∃ a, told a ∧ refuses' a problem)
      (fun d => breaks d ∨ ∃ a, told a ∧ breaks' a d) (x >>= next) := by
  have step (a : α) (holds : told a) : x >>= next = next a := by
    rw [(first _).mpr (.ok holds)]
    rfl
  intro outcome
  constructor
  · rintro rfl
    cases (first x).mp rfl with
    | refused reason => exact .refused (.inl reason)
    | broken reason => exact .broken (.inl reason)
    | @ok a holds =>
      rw [Outcome.ok_bind]
      generalize ends : next a = y
      cases (second a holds y).mp ends with
      | ok holds' => exact .ok ⟨a, holds, holds'⟩
      | refused reason => exact .refused (.inr ⟨a, holds, reason⟩)
      | broken reason => exact .broken (.inr ⟨a, holds, reason⟩)
  · rintro (⟨a, holds, holds'⟩ | (reason | ⟨a, holds, reason⟩) | (reason | ⟨a, holds, reason⟩))
    · rw [step a holds, (second a holds _).mpr (.ok holds')]
    · rw [(first _).mpr (.refused reason)]
      rfl
    · rw [step a holds, (second a holds _).mpr (.refused reason)]
    · rw [(first _).mpr (.broken reason)]
      rfl
    · rw [step a holds, (second a holds _).mpr (.broken reason)]

end IsRead

end Outcomes

section Numbers

variable {α : Type} {convert : Value → Except Refusal α} {beyond : Value → Prop}

/-- An infinite number. -/
def IsInfinite (v : Value) : Prop :=
  ∃ negative, v = .binary (.infinite negative) ∨ v = .decimal (.infinite negative)

/-- An integer that is too large for a binary number: it is at least as far from zero as the middle
between the greatest of them and the next power of two. -/
def IsBeyond (v : Value) : Prop :=
  ∃ n, v = .int n ∧ Number.pow2 1024 ≤ n.natAbs + Number.pow2 970

/-- The number that a setting has. -/
inductive IsNumber (convert : Value → Except Refusal α) (default : α) : Value → α → Prop where
  /-- Where nothing or null is given it is the default. -/
  | omitted : IsNumber convert default .null default
  /-- Otherwise it is what the value is converted to. -/
  | given {v : Value} {a : α} (converted : convert v = .ok a) : IsNumber convert default v a

/-- A setting that is refused, for it is no number and can be shown. -/
structure IsUnfit (convert : Value → Except Refusal α) (v : Value) : Prop where
  /-- Something is given. -/
  given : v ≠ .null
  /-- It is no number. -/
  unfit : convert v = .error .unfit
  /-- It can be shown. -/
  short : v.holdsLong = false

/-- How reading a numeric setting breaks down. -/
inductive IsBroken (beyond : Value → Prop) (v : Value) : Defect → Prop where
  /-- The number is out of range. -/
  | overflow (outside : beyond v) : IsBroken beyond v .overflow
  /-- The value is no number and holds one that is too long to be shown. -/
  | long (other : ∀ n, v ≠ .int n) (long : v.holdsLong = true) : IsBroken beyond v .value

/-- A conversion to numbers of which some are out of range. -/
structure IsConversion (convert : Value → Except Refusal α) (beyond : Value → Prop) : Prop where
  /-- Null is no number. -/
  null : convert .null = .error .unfit
  /-- Truth values are no numbers. -/
  bool (b : Bool) : convert (.bool b) = .error .unfit
  /-- Integers are numbers, be they out of range. -/
  int (n : Int) : convert (.int n) ≠ .error .unfit
  /-- What else holds an integer that is too long is no number. -/
  long {v : Value} (other : ∀ n, v ≠ .int n) (long : v.holdsLong = true) :
    convert v = .error .unfit
  /-- Which numbers are out of range. -/
  overflow {v : Value} : convert v = .error .overflow ↔ beyond v

/-- What cannot be read is not out of range. -/
theorem elim_ne_overflow (read : Option α) :
    read.elim (.error .unfit) .ok ≠ (.error .overflow : Except Refusal α) := by
  cases read <;> exact nofun

/-- Infinities are out of range of the integers. -/
theorem isConversion_integerOf : IsConversion integerOf IsInfinite where
  null := rfl
  bool b := rfl
  int n := nofun
  long {v} other long := by
    cases v with
    | int n => exact absurd rfl (other n)
    | set | pair | list | object => rfl
    | _ => cases long
  overflow {v} := by
    constructor
    · intro h
      unfold integerOf at h
      split at h
      · cases h
      · exact ⟨_, .inl rfl⟩
      · exact absurd h (elim_ne_overflow _)
      · exact ⟨_, .inr rfl⟩
      · exact absurd h (elim_ne_overflow _)
      · exact absurd h (elim_ne_overflow _)
      · exact absurd h (elim_ne_overflow _)
      · cases h
    · rintro ⟨negative, rfl | rfl⟩ <;> rfl

/-- Large integers are out of range of the binary numbers. -/
theorem isConversion_binaryOf : IsConversion binaryOf IsBeyond where
  null := rfl
  bool b := rfl
  int n := by
    rw [binaryOf]
    split <;> exact nofun
  long {v} other long := by
    cases v with
    | int n => exact absurd rfl (other n)
    | set | pair | list | object => rfl
    | _ => cases long
  overflow {v} := by
    constructor
    · intro h
      unfold binaryOf at h
      split at h
      · next n =>
        split at h
        · next negative large => exact ⟨n, rfl, Binary64.ofInt_eq_infinite_iff.mp ⟨negative, large⟩⟩
        · cases h
      · cases h
      · exact absurd h (elim_ne_overflow _)
      · exact absurd h (elim_ne_overflow _)
      · exact absurd h (elim_ne_overflow _)
      · cases h
    · rintro ⟨n, rfl, large⟩
      obtain ⟨negative, large⟩ := Binary64.ofInt_eq_infinite_iff.mpr large
      rw [binaryOf, large]

/-- A setting that is no number is refused, unless it is too long to be shown. -/
theorem isRead_unfit (conversion : IsConversion convert beyond) {v : Value} (given : v ≠ .null)
    (unfit : convert v = .error .unfit) (source name : String) (default : α) :
    IsRead source (IsNumber convert default v)
      (fun problem => IsUnfit convert v ∧ problem = .setting name v) (IsBroken beyond v)
      (if v.holdsLong then Outcome.defect .value
        else Outcome.fail (.config (.setting name v) (some source))) := by
  have inside : ¬beyond v := by
    intro outside
    rw [conversion.overflow.mpr outside] at unfit
    cases unfit
  have none (a : α) : ¬IsNumber convert default v a := by
    rintro (_ | converted)
    · exact given rfl
    · rw [unfit] at converted
      cases converted
  cases long : v.holdsLong with
  | true =>
    rw [if_pos rfl]
    have other (n : Int) : v ≠ .int n := fun same => conversion.int n (same ▸ unfit)
    refine .of_ends (.broken (.long other long)) ?_
    rintro _ (holds | ⟨refused, -⟩ | outside | -)
    · exact absurd holds (none _)
    · cases long.symm.trans refused.short
    · exact absurd outside inside
    · rfl
  | false =>
    rw [if_neg Bool.false_ne_true]
    refine .of_ends (.refused ⟨⟨given, unfit, long⟩, rfl⟩) ?_
    rintro _ (holds | ⟨-, rfl⟩ | outside | ⟨-, long'⟩)
    · exact absurd holds (none _)
    · rfl
    · exact absurd outside inside
    · cases long.symm.trans long'

/-- A number is read unless it is out of range; what else is given is refused, unless it is too long
to be shown. -/
theorem isRead_number (conversion : IsConversion convert beyond) (source name : String)
    (default : α) (members : List (Key × Value)) :
    let v := (Value.object members).member name
    IsRead source (IsNumber convert default v)
      (fun problem => IsUnfit convert v ∧ problem = .setting name v) (IsBroken beyond v)
      (number source name convert default members) := by
  intro v
  have found : (Fields.find? members name).getD .null = v := rfl
  unfold number
  rw [found]
  clear_value v
  dsimp only
  split
  · refine .of_ends (.ok .omitted) ?_
    rintro _ ((_ | converted) | ⟨refused, -⟩ | outside | ⟨-, long⟩)
    · rfl
    · cases conversion.null.symm.trans converted
    · exact absurd rfl refused.given
    · cases conversion.null.symm.trans (conversion.overflow.mpr outside)
    · cases long
  · next b =>
    exact isRead_unfit (v := .bool b) conversion nofun (conversion.bool b) source name default
  · next given _ =>
    split
    · next a converted =>
      refine .of_ends (.ok (.given converted)) ?_
      rintro _ ((_ | converted') | ⟨refused, -⟩ | outside | ⟨other, long⟩)
      · exact absurd rfl given
      · cases converted.symm.trans converted'
        rfl
      · cases converted.symm.trans refused.unfit
      · cases converted.symm.trans (conversion.overflow.mpr outside)
      · cases converted.symm.trans (conversion.long other long)
    · next overflow =>
      refine .of_ends (.broken (.overflow (conversion.overflow.mp overflow))) ?_
      rintro _ ((_ | converted) | ⟨refused, -⟩ | - | ⟨other, long⟩)
      · exact absurd rfl given
      · cases overflow.symm.trans converted
      · cases overflow.symm.trans refused.unfit
      · rfl
      · cases overflow.symm.trans (conversion.long other long)
    · next unfit => exact isRead_unfit conversion given unfit source name default

end Numbers

section Members

variable (source : String)

/-- The headers of every request that a setting gives. -/
inductive IsHeaders : Value → List (Key × Value) → Prop where
  /-- They are the members of an object. -/
  | object (fields : List (Key × Value)) : IsHeaders (.object fields) fields
  /-- Whatever counts as absent gives none. -/
  | absent {v : Value} (h : v.isAbsent = true) : IsHeaders v []

/-- The base address that a setting gives. -/
inductive IsBase : Value → Option String → Prop where
  /-- Without one there is none. -/
  | omitted : IsBase .null none
  /-- It is a text. -/
  | given (s : String) : IsBase (.text s) (some s)

/-- The settings that an object gives. -/
structure IsSettingsOf (c : Value) (s : Settings) : Prop where
  /-- The headers. -/
  headers : IsHeaders (c.member "default_headers") s.defaultHeaders
  /-- The base address. -/
  base : IsBase (c.member "base_url") s.baseUrl
  /-- The depth limit. -/
  depth : IsNumber integerOf 100 (c.member "max_depth") s.maxDepth
  /-- The time limit. -/
  timeout : IsNumber binaryOf (.ofInt 30) (c.member "timeout") s.timeout

/-- The headers and the base address of an object are fit for settings. -/
structure IsAddressed (c : Value) : Prop where
  /-- There are headers. -/
  headers : ∃ fields, IsHeaders (c.member "default_headers") fields
  /-- There is a base address, or none is given. -/
  base : ∃ base, IsBase (c.member "base_url") base

/-- What is wrong with the settings of an object. A setting is refused only if those that are
checked before it are fit. -/
inductive IsProblem (c : Value) : ConfigProblem → Prop where
  /-- The headers are no object. -/
  | headers (unfit : ∀ fields, ¬IsHeaders (c.member "default_headers") fields) :
    IsProblem c .defaultHeaders
  /-- The base address is no text. -/
  | base (headers : ∃ fields, IsHeaders (c.member "default_headers") fields)
    (unfit : ∀ base, ¬IsBase (c.member "base_url") base) : IsProblem c .baseUrl
  /-- The depth limit is no number. -/
  | depth (before : IsAddressed c) (unfit : IsUnfit integerOf (c.member "max_depth")) :
    IsProblem c (.setting "max_depth" (c.member "max_depth"))
  /-- The time limit is no number. -/
  | timeout (before : IsAddressed c)
    (depth : ∃ n, IsNumber integerOf 100 (c.member "max_depth") n)
    (unfit : IsUnfit binaryOf (c.member "timeout")) :
    IsProblem c (.setting "timeout" (c.member "timeout"))

/-- How reading the settings of an object breaks down. -/
inductive BreaksDown (c : Value) (d : Defect) : Prop where
  /-- The depth limit is infinite, or no number and too long to be shown. -/
  | depth (before : IsAddressed c) (broken : IsBroken IsInfinite (c.member "max_depth") d)
  /-- The time limit is an integer too large for it, or no number and too long to be shown. -/
  | timeout (before : IsAddressed c)
    (depth : ∃ n, IsNumber integerOf 100 (c.member "max_depth") n)
    (broken : IsBroken IsBeyond (c.member "timeout") d)

/-- The headers that a setting gives, or their problem. -/
def readHeaders (source : String) : Value → Outcome (List (Key × Value))
  | .object fields => Except.ok fields
  | v =>
    if v.isAbsent then Except.ok []
    else Outcome.fail (.config .defaultHeaders (some source))

/-- The base address that a setting gives, or its problem. -/
def readBase (source : String) : Value → Outcome (Option String)
  | .null => Except.ok none
  | .text s => Except.ok (some s)
  | _ => Outcome.fail (.config .baseUrl (some source))

/-- The settings are read one after another. -/
theorem ofMembers_eq (members : List (Key × Value)) :
    ofMembers source members = (do
      let defaultHeaders ← readHeaders source ((Value.object members).member "default_headers")
      let baseUrl ← readBase source ((Value.object members).member "base_url")
      let maxDepth ← number source "max_depth" integerOf 100 members
      let timeout ← number source "timeout" binaryOf (.ofInt 30) members
      return { maxDepth, timeout, baseUrl, defaultHeaders }) := by
  rw [ofMembers, Value.member, Value.member]
  generalize (Fields.find? members "default_headers").getD .null = headers
  generalize (Fields.find? members "base_url").getD .null = base
  cases headers with
  | object fields => cases base <;> rfl
  | _ =>
    dsimp only [readHeaders]
    split <;> cases base <;> rfl

/-- Headers are read from an object, or from what counts as absent. -/
theorem isRead_readHeaders (v : Value) :
    IsRead source (IsHeaders v)
      (fun problem => (∀ fields, ¬IsHeaders v fields) ∧ problem = .defaultHeaders)
      (fun _ => False) (readHeaders source v) := by
  have read (other : ∀ fields, v ≠ .object fields) : IsRead source (IsHeaders v)
      (fun problem => (∀ fields, ¬IsHeaders v fields) ∧ problem = .defaultHeaders)
      (fun _ => False) (if v.isAbsent then Except.ok [] else
        Outcome.fail (.config .defaultHeaders (some source))) := by
    cases absent : v.isAbsent with
    | true =>
      rw [if_pos rfl]
      refine .of_ends (.ok (.absent absent)) ?_
      rintro _ ((_ | _) | ⟨unfit, -⟩ | none)
      · exact absurd rfl (other _)
      · rfl
      · exact absurd (IsHeaders.absent absent) (unfit [])
      · exact none.elim
    | false =>
      rw [if_neg Bool.false_ne_true]
      have unfit (fields : List (Key × Value)) : ¬IsHeaders v fields := by
        rintro (_ | absent')
        · exact other fields rfl
        · cases absent.symm.trans absent'
      refine .of_ends (.refused ⟨unfit, rfl⟩) ?_
      rintro _ (holds | ⟨-, rfl⟩ | none)
      · exact absurd holds (unfit _)
      · rfl
      · exact none.elim
  cases v with
  | object fields =>
    refine .of_ends (.ok (.object fields)) ?_
    rintro _ ((_ | empty) | ⟨unfit, -⟩ | none)
    · rfl
    · rw [List.isEmpty_iff.mp empty]
      rfl
    · exact absurd (IsHeaders.object fields) (unfit fields)
    · exact none.elim
  | _ => exact read nofun

/-- A base address is read from a text. -/
theorem isRead_readBase (v : Value) :
    IsRead source (IsBase v) (fun problem => (∀ base, ¬IsBase v base) ∧ problem = .baseUrl)
      (fun _ => False) (readBase source v) := by
  have read (unfit : ∀ base, ¬IsBase v base) : IsRead source (IsBase v)
      (fun problem => (∀ base, ¬IsBase v base) ∧ problem = .baseUrl) (fun _ => False)
      (Outcome.fail (.config .baseUrl (some source))) := by
    refine .of_ends (.refused ⟨unfit, rfl⟩) ?_
    rintro _ (holds | ⟨-, rfl⟩ | none)
    · exact absurd holds (unfit _)
    · rfl
    · exact none.elim
  cases v with
  | null =>
    refine .of_ends (.ok .omitted) ?_
    rintro _ (⟨⟨⟩⟩ | ⟨unfit, -⟩ | none)
    · rfl
    · exact absurd IsBase.omitted (unfit none)
    · exact none.elim
  | text s =>
    refine .of_ends (.ok (.given s)) ?_
    rintro _ (⟨⟨⟩⟩ | ⟨unfit, -⟩ | none)
    · rfl
    · exact absurd (IsBase.given s) (unfit (some s))
    · exact none.elim
  | _ => exact read nofun

/-- Reading the settings of an object. -/
theorem isRead_ofMembers (members : List (Key × Value)) :
    let c := Value.object members
    IsRead source (IsSettingsOf c) (IsProblem c) (BreaksDown c) (ofMembers source members) := by
  intro c
  have step := (isRead_readHeaders source (c.member "default_headers")).bind fun defaultHeaders _ =>
    (isRead_readBase source (c.member "base_url")).bind fun baseUrl _ =>
      (isRead_number isConversion_integerOf source "max_depth" 100 members).bind fun maxDepth _ =>
        (isRead_number isConversion_binaryOf source "timeout" (.ofInt 30) members).bind
          fun timeout _ =>
            .result source (Settings.mk maxDepth timeout baseUrl defaultHeaders)
  rw [ofMembers_eq]
  refine step.congr (fun s => ?_) (fun problem => ?_) fun d => ?_
  · constructor
    · rintro ⟨fields, headers, base, address, n, depth, t, timeout, rfl⟩
      exact ⟨headers, address, depth, timeout⟩
    · rintro ⟨headers, address, depth, timeout⟩
      exact ⟨_, headers, _, address, _, depth, _, timeout, rfl⟩
  · constructor
    · rintro (⟨unfit, rfl⟩ | ⟨fields, headers, ⟨unfit, rfl⟩ | ⟨base, address, ⟨unfit, rfl⟩ |
        ⟨n, depth, ⟨unfit, rfl⟩ | ⟨t, timeout, ⟨⟩⟩⟩⟩⟩)
      · exact .headers unfit
      · exact .base ⟨fields, headers⟩ unfit
      · exact .depth ⟨⟨fields, headers⟩, base, address⟩ unfit
      · exact .timeout ⟨⟨fields, headers⟩, base, address⟩ ⟨n, depth⟩ unfit
    · rintro (unfit | ⟨⟨fields, headers⟩, unfit⟩ | ⟨⟨⟨fields, headers⟩, base, address⟩, unfit⟩ |
        ⟨⟨⟨fields, headers⟩, base, address⟩, ⟨n, depth⟩, unfit⟩)
      · exact .inl ⟨unfit, rfl⟩
      · exact .inr ⟨fields, headers, .inl ⟨unfit, rfl⟩⟩
      · exact .inr ⟨fields, headers, .inr ⟨base, address, .inl ⟨unfit, rfl⟩⟩⟩
      · exact .inr ⟨fields, headers, .inr ⟨base, address, .inr ⟨n, depth, .inl ⟨unfit, rfl⟩⟩⟩⟩
  · constructor
    · rintro (none | ⟨fields, headers, none | ⟨base, address, broken | ⟨n, depth, broken |
        ⟨t, timeout, none⟩⟩⟩⟩)
      · exact none.elim
      · exact none.elim
      · exact .depth ⟨⟨fields, headers⟩, base, address⟩ broken
      · exact .timeout ⟨⟨fields, headers⟩, base, address⟩ ⟨n, depth⟩ broken
      · exact none.elim
    · rintro (⟨⟨⟨fields, headers⟩, base, address⟩, broken⟩ |
        ⟨⟨⟨fields, headers⟩, base, address⟩, ⟨n, depth⟩, broken⟩)
      · exact .inr ⟨fields, headers, .inr ⟨base, address, .inl broken⟩⟩
      · exact .inr ⟨fields, headers, .inr ⟨base, address, .inr ⟨n, depth, .inl broken⟩⟩⟩

/-- What is no object gives the defaults if it counts as absent. -/
theorem ofValue_of_ne_object {c : Value} (other : ∀ members, c ≠ .object members) :
    ofValue source c = if c.isAbsent then Except.ok {} else
      Outcome.fail (.config .settingsShape (some source)) := by
  cases c with
  | object members => exact absurd rfl (other members)
  | _ => rfl

/-- What counts as absent gives the defaults. -/
theorem ofValue_of_isAbsent {c : Value} (absent : c.isAbsent = true) :
    ofValue source c = .ok {} := by
  cases c with
  | object members =>
    rw [List.isEmpty_iff.mp absent]
    rfl
  | _ =>
    refine (ofValue_of_ne_object source ?_).trans (if_pos absent)
    exact nofun

end Members

/-- A file of JSON, each line of which ends with a line feed, holds what its text says. -/
theorem read_of_json {directory : Directory} {name : FileName} {text : String} {c : Value}
    (ending : name.ending = "json") (there : directory.find name = .file text)
    (plain : FileTree.plainLines text.toList = text.toList) (said : Json.read text = .ok c) :
    directory.read name = .ok c := by
  have read : Json.readChars .exact text.toList = .ok c := said
  rw [Directory.read, there, ending]
  unfold Directory.parse
  dsimp only
  rw [if_pos (decide_eq_true rfl), plain, read]

/-- A file that holds null, or whatever else counts as absent, gives the default settings, and one
that holds anything else but an object is refused. An object gives the settings that its members
tell, or is refused for the first of them that is unfit, unless reading breaks down: only an
infinite depth limit, an integer that is too large for a time limit, and a collection with an
integer that is too long to be shown do that. -/
theorem load_outcomes {directory : Directory} {name : FileName} {c : Value}
    (found : directory.read name = .ok c) :
    (c.isAbsent = true → load directory (some name) = .ok {}) ∧
    (c.isAbsent = false → (∀ members, c ≠ .object members) →
      load directory (some name) =
        Outcome.fail (.config .settingsShape (some (directory.shown name)))) ∧
    ∀ members, c = .object members → ∀ outcome, load directory (some name) = outcome ↔
      Ends (directory.shown name) (IsSettingsOf c) (IsProblem c) (BreaksDown c) outcome := by
  have read : load directory (some name) = ofValue (directory.shown name) c := by
    rw [load, found]
    rfl
  rw [read]
  refine ⟨ofValue_of_isAbsent _, fun given other => ?_, ?_⟩
  · rw [ofValue_of_ne_object _ other, given]
    rfl
  · rintro members rfl
    exact isRead_ofMembers (directory.shown name) members

/-- A file with a depth limit that is written as a text, and nothing else. -/
theorem load_outcomes_text :
    let directory : Directory := { find := fun _ => .file "\x7b\"max_depth\": \"12\"\x7d" }
    load directory (some ⟨false, ["c.json"]⟩) = .ok { maxDepth := 12 } := by
  intro directory
  let c : Value := .object [(.text "max_depth", .text "12")]
  have formed : AllScalars Json.HasForm c :=
    ⟨List.pairwise_singleton _ _, ⟨_, rfl⟩, trivial, trivial⟩
  have written : Json.write .spaced c = .ok "\x7b\"max_depth\": \"12\"\x7d" := rfl
  have found : directory.read ⟨false, ["c.json"]⟩ = .ok c :=
    read_of_json rfl rfl rfl (Json.read_write_of_hasForm formed written)
  exact ((load_outcomes found).2.2 _ rfl _).mpr
    (.ok ⟨.absent rfl, .omitted, .given rfl, .omitted⟩)

/-- An infinite depth limit breaks reading down, and an empty list is taken for no settings. -/
theorem load_lenient :
    let infinite : Directory := { find := fun _ => .file "\x7b\"max_depth\": Infinity\x7d" }
    let empty : Directory := { find := fun _ => .file "[]" }
    let name : FileName := ⟨false, ["c.json"]⟩
    infinite.read name = .ok (.object [(.text "max_depth", .binary (.infinite false))]) ∧
      load infinite (some name) = Outcome.defect .overflow ∧
      empty.read name = .ok (.list []) ∧ load empty (some name) = .ok {} := by
  intro infinite empty name
  have ending : FileName.ending ⟨false, ["c.json"]⟩ = "json" := rfl
  let c : Value := .object [(.text "max_depth", .binary (.infinite false))]
  have formed : AllScalars Json.HasForm c :=
    ⟨List.pairwise_singleton _ _, ⟨_, rfl⟩, trivial, trivial⟩
  have written : Json.write .spaced c = .ok "\x7b\"max_depth\": Infinity\x7d" := rfl
  have found : infinite.read name = .ok c :=
    read_of_json ending rfl rfl (Json.read_write_of_hasForm formed written)
  have formed' : AllScalars Json.HasForm (.list []) := trivial
  have written' : Json.write .spaced (.list []) = .ok "[]" := rfl
  have found' : empty.read name = .ok (.list []) :=
    read_of_json ending rfl rfl (Json.read_write_of_hasForm formed' written')
  refine ⟨found, ?_, found', ?_⟩
  · rw [load, found]
    rfl
  · rw [load, found']
    rfl

end Stencil.Settings
