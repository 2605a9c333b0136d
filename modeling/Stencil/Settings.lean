import Stencil.Binary64.Text
import Stencil.Decimal.Text
import Stencil.File

/-!
# Settings

How deep schemas may nest, how long a request may take, and what is added to every request. A
settings file gives each of them by name; what it leaves out or sets to null has its default.
-/

namespace Stencil

/-- The settings of a batch engine. -/
structure Settings where
  /-- The deepest level of a schema. -/
  maxDepth : Int := 100
  /-- How many seconds a request may take. -/
  timeout : Binary64 := .ofInt 30
  /-- What relative addresses are relative to. -/
  baseUrl : Option String := none
  /-- The headers of every request. -/
  defaultHeaders : List (Key × Value) := []

namespace Settings

/-- What keeps a value from being used as a number. -/
inductive Refusal where
  /-- The value is not a number. -/
  | unfit
  /-- The number is out of range. -/
  | overflow
  deriving DecidableEq, Repr

/-- The characters that bytes stand for, if all of them are plain. -/
def plainChars? (bs : List UInt8) : Option (List Char) :=
  if bs.all fun b => b.toNat < 128 then some (bs.map fun b => Char.ofNat b.toNat) else none

/-- A value as an integer; what follows the point is dropped. -/
def integerOf : Value → Except Refusal Int
  | .int n => .ok n
  | .binary (.infinite _) => .error .overflow
  | .binary x => (x.truncate?).elim (.error .unfit) .ok
  | .decimal (.infinite _) => .error .overflow
  | .decimal d => (d.truncate?).elim (.error .unfit) .ok
  | .text s => (Number.readInteger? s.toList).elim (.error .unfit) .ok
  | .bytes bs => ((plainChars? bs).bind Number.readInteger?).elim (.error .unfit) .ok
  | _ => .error .unfit

/-- A value as a binary number. -/
def binaryOf : Value → Except Refusal Binary64
  | .int n =>
    match Binary64.ofInt n with
    | .infinite _ => .error .overflow
    | x => .ok x
  | .binary x => .ok x
  | .decimal d => (Binary64.read? d.chars).elim (.error .unfit) .ok
  | .text s => (Binary64.read? s.toList).elim (.error .unfit) .ok
  | .bytes bs => ((plainChars? bs).bind Binary64.read?).elim (.error .unfit) .ok
  | _ => .error .unfit

/-- A numeric setting by its name. Truth values are no numbers. -/
def number {α : Type} (source name : String) (convert : Value → Except Refusal α) (default : α)
    (members : List (Key × Value)) : Outcome α :=
  let unfit (v : Value) : Outcome α :=
    if v.holdsLong then Outcome.defect .value
    else Outcome.fail (.config (.setting name v) (some source))
  match (Fields.find? members name).getD .null with
  | .null => Except.ok default
  | .bool b => unfit (.bool b)
  | v =>
    match convert v with
    | .ok a => Except.ok a
    | .error .overflow => Outcome.defect .overflow
    | .error .unfit => unfit v

/-- The settings in the members of a file. The shape of the headers is checked first, then the base
address, then the numbers. -/
def ofMembers (source : String) (members : List (Key × Value)) : Outcome Settings := do
  let refuse {α : Type} (problem : ConfigProblem) : Outcome α :=
    Outcome.fail (.config problem (some source))
  let headers := (Fields.find? members "default_headers").getD .null
  let defaultHeaders ← match headers with
    | .object fields => (Except.ok fields : Outcome (List (Key × Value)))
    | v => if v.isAbsent then Except.ok [] else refuse .defaultHeaders
  let baseUrl ← match (Fields.find? members "base_url").getD .null with
    | .null => (Except.ok none : Outcome (Option String))
    | .text s => Except.ok (some s)
    | _ => refuse .baseUrl
  let maxDepth ← number source "max_depth" integerOf 100 members
  let timeout ← number source "timeout" binaryOf (.ofInt 30) members
  return { maxDepth, timeout, baseUrl, defaultHeaders }

/-- The settings that data describes; empty data leaves everything at its default. -/
def ofValue (source : String) : Value → Outcome Settings
  | .object members => ofMembers source members
  | v =>
    if v.isAbsent then Except.ok {} else Outcome.fail (.config .settingsShape (some source))

/-- The settings in a file; without a file all have their defaults. -/
def load (d : Directory) : Option FileName → Outcome Settings
  | none => Except.ok {}
  | some name => do ofValue (d.shown name) (← d.read name)

end Settings

end Stencil
