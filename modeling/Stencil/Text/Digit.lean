/-!
# Decimal digits of every script

Numbers may be written with the decimal digits of any script; each script has its ten digits in
a row, so a digit's value is its distance from the zero of its row.
-/

namespace Stencil.Text

/-- The zeros of the scripts beyond ASCII. -/
def digitZeros : List Nat := [
  1632, 1776, 1984, 2406, 2534, 2662, 2790, 2918, 3046, 3174, 3302, 3430, 3558, 3664,
  3792, 3872, 4160, 4240, 6112, 6160, 6470, 6608, 6784, 6800, 6992, 7088, 7232, 7248,
  42528, 43216, 43264, 43472, 43504, 43600, 44016, 65296, 66720, 68912, 69734, 69872, 69942, 70096,
  70384, 70736, 70864, 71248, 71360, 71472, 71904, 72016, 72784, 73040, 73120, 92768, 92864, 93008,
  120782, 120792, 120802, 120812, 120822, 123200, 123632, 125264, 130032]

/-- The value of a decimal digit of any script. -/
def digitValue? (c : Char) : Option Nat :=
  if c.toNat < 128 then
    if c.isDigit then some (c.toNat - 48) else none
  else
    (digitZeros.find? fun start => decide (start ≤ c.toNat ∧ c.toNat < start + 10)).map
      fun start => c.toNat - start

/-- A digit's value is below ten. -/
theorem digitValue?_lt {c : Char} {v : Nat} (h : digitValue? c = some v) : v < 10 := by
  unfold digitValue? at h
  split at h
  · split at h
    · next digit =>
      simp only [Char.isDigit, Bool.and_eq_true, decide_eq_true_eq] at digit
      simp only [Option.some.injEq] at h
      have upper : c.toNat ≤ 57 := digit.2
      omega
    · simp at h
  · obtain ⟨start, found, rfl⟩ := Option.map_eq_some_iff.1 h
    have := List.find?_some found
    simp only [decide_eq_true_eq] at this
    omega

end Stencil.Text
