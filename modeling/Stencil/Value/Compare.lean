import Stencil.Decimal.Arithmetic
import Stencil.Value.Basic

/-!
# Comparing values

Values of different kinds are never equal, except that numbers are compared by their exact value
whatever they are held as. Only texts, and numbers that are integers or binary fractions, are
ordered.
-/

namespace Stencil

/-- The decimal number of exactly the value of a binary one. -/
def Decimal.ofBinary64 : Binary64 → Decimal
  | .finite negative significand exponent =>
    .finite negative (significand * Number.pow2 exponent.toNat * Nat.pow 5 (-exponent).toNat)
      (min exponent 0)
  | .infinite negative => .infinite negative
  | .undefined => .undefined false false 0

namespace Value

/-- The exact value of a number. -/
def numeric? : Value → Option Decimal
  | .int n => some (.ofInt n)
  | .decimal d => some d
  | .binary x => some (.ofBinary64 x)
  | _ => none

/-- Whether two numbers have the same value. -/
def sameNumber (a b : Value) : Bool :=
  match a.numeric?, b.numeric? with
  | some x, some y => x.compare? y == some .eq
  | _, _ => false

mutual

/-- Whether two values are equal. -/
def same : Value → Value → Bool
  | .null, .null => true
  | .bool a, .bool b => a = b
  | .text a, .text b => a = b
  | .moment a, .moment b => a = b
  | .bytes a, .bytes b => a = b
  | .set a, .set b => a.length = b.length && a.all fun key => b.any key.same
  | .pair a b, .pair c d => same a c && same b d
  | .list a, .list b => sameItems a b
  | .object a, .object b => a.length = b.length && sameMembers a b
  | a, b => sameNumber a b
  termination_by structural v => v

/-- Whether two lists have equal items. -/
def sameItems : List Value → List Value → Bool
  | [], [] => true
  | a :: as, b :: bs => same a b && sameItems as bs
  | _, _ => false
  termination_by structural items => items

/-- Whether every member is also among the others, with an equal value. -/
def sameMembers : List (Key × Value) → List (Key × Value) → Bool
  | [], _ => true
  | (key, a) :: rest, others =>
    (match Fields.get? others key with
      | some b => same a b
      | none => false) && sameMembers rest others
  termination_by structural members => members

end

/-- Whether a number is an integer or a binary fraction. -/
def isOrdered : Value → Bool
  | .int _ => true
  | .binary _ => true
  | _ => false

/-- Whether the first value comes before the second. -/
def before (a b : Value) : Bool :=
  match a, b with
  | .text s, .text t => decide (s < t)
  | _, _ =>
    match a.isOrdered && b.isOrdered, a.numeric?, b.numeric? with
    | true, some x, some y => x.compare? y == some .lt
    | _, _, _ => false

end Value

end Stencil
