import Stencil.Binary64.Basic
import Stencil.Decimal.Basic
import Stencil.Value.Moment

/-!
# Values

The data that documents, schemas and built results consist of. Objects keep the order in which
their members were first written. Documents read from JSON have text keys only; other files may use
any scalar as a key.
-/

namespace Stencil

/-- The key of an object's member. -/
inductive Key where
  /-- A text. -/
  | text (s : String)
  /-- The null value. -/
  | null
  /-- A truth value. -/
  | bool (b : Bool)
  /-- An integer. -/
  | int (n : Int)
  /-- A binary fraction. -/
  | binary (x : Binary64)
  /-- A date or time. -/
  | moment (m : Moment)
  /-- Bytes. -/
  | bytes (bs : List UInt8)
  deriving DecidableEq, Repr, Inhabited

/-- A datum. -/
inductive Value where
  /-- The null value. -/
  | null
  /-- A truth value. -/
  | bool (b : Bool)
  /-- An integer of any size. -/
  | int (n : Int)
  /-- A decimal number. -/
  | decimal (d : Decimal)
  /-- A binary fraction. -/
  | binary (x : Binary64)
  /-- A text. -/
  | text (s : String)
  /-- A date or time. -/
  | moment (m : Moment)
  /-- Bytes. -/
  | bytes (bs : List UInt8)
  /-- A set of scalars, which could be keys. -/
  | set (keys : List Key)
  /-- A pair of values, as an ordered mapping lists them. -/
  | pair (first second : Value)
  /-- A list of values. -/
  | list (items : List Value)
  /-- An object with its members in order. -/
  | object (members : List (Key × Value))
  deriving Repr, Inhabited

namespace Key

/-- The number that a key stands for: truth values count as zero and one. -/
def binary? : Key → Option Binary64
  | .binary x => some x
  | _ => none

/-- The integer that a key stands for, if it stands for one. -/
def int? : Key → Option Int
  | .bool b => some (if b then 1 else 0)
  | .int n => some n
  | _ => none

/-- Whether a binary number equals an integer. -/
def binaryEqInt (x : Binary64) (n : Int) : Bool :=
  match x.ratio? with
  | some (a, b) => a = n * b
  | none => false

/-- Whether two keys name the same member. Numbers do so when their values are equal. -/
def same (a b : Key) : Bool :=
  match a.int?, b.int?, a.binary?, b.binary? with
  | some m, some n, _, _ => m = n
  | some m, none, _, some y => binaryEqInt y m
  | none, some n, some x, _ => binaryEqInt x n
  | none, none, some x, some y => x.compare? y == some .eq
  | _, _, _, _ => a = b

/-- Text keys name the same member exactly when they are equal. -/
theorem same_text (s t : String) : same (.text s) (.text t) = decide (s = t) := by
  simp [same, int?, binary?]

end Key

/-- The members of an object or the named parts of a record, in order. -/
abbrev Fields (α : Type) := List (Key × α)

namespace Fields

/-- The value of a member. -/
def get? {α : Type} (fields : Fields α) (key : Key) : Option α :=
  (fields.find? fun entry => entry.1.same key).map Prod.snd

/-- The value of a member with a text key. -/
def find? {α : Type} (fields : Fields α) (name : String) : Option α := get? fields (.text name)

/-- The members with one set: a member of the same key keeps its place and key, a new one comes
last. -/
def insert {α : Type} : Fields α → Key → α → Fields α
  | [], key, value => [(key, value)]
  | (other, old) :: rest, key, value =>
    if other.same key then (other, value) :: rest else (other, old) :: insert rest key value

/-- The members given by a list in which a key may come more than once. -/
def ofList {α : Type} (entries : List (Key × α)) : Fields α :=
  entries.foldl (fun fields entry => insert fields entry.1 entry.2) []

end Fields

namespace Value

/-- The word for the kind of a value in messages. -/
def kind : Value → String
  | .null => "NoneType"
  | .bool _ => "bool"
  | .int _ => "int"
  | .decimal _ => "Decimal"
  | .binary _ => "float"
  | .text _ => "str"
  | .moment (.day _) => "date"
  | .moment (.instant ..) => "datetime"
  | .bytes _ => "bytes"
  | .set _ => "set"
  | .pair .. => "tuple"
  | .list _ => "list"
  | .object _ => "dict"

/-- Whether the value is the null value. -/
def isNull : Value → Bool
  | .null => true
  | _ => false

/-- Whether a value counts as absent where a setting may be left out: null, false, zero, and
everything empty. -/
def isAbsent : Value → Bool
  | .null => true
  | .bool b => !b
  | .int n => n = 0
  | .decimal (.finite _ coefficient _) => coefficient = 0
  | .decimal _ => false
  | .binary x => !x.nonzero
  | .text s => s.isEmpty
  | .moment _ => false
  | .bytes bs => bs.isEmpty
  | .set keys => keys.isEmpty
  | .pair .. => false
  | .list items => items.isEmpty
  | .object members => members.isEmpty

/-- The member of an object, null if it has none or is no object. -/
def member (v : Value) (name : String) : Value :=
  match v with
  | .object members => (Fields.find? members name).getD .null
  | _ => .null

end Value

end Stencil
