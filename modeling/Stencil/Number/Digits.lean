/-!
# Decimal digits of natural numbers

The powers of two and ten, which are the scales of binary and decimal numbers; writing a natural
number in base ten, counting its digits, and reading a list of digit values back.
-/

namespace Stencil.Number

/-- A power of two. -/
def pow2 (n : Nat) : Nat := Nat.pow 2 n

/-- A power of ten. -/
def pow10 (n : Nat) : Nat := Nat.pow 10 n

/-- The first power is one. -/
theorem pow10_zero : pow10 0 = 1 := rfl

/-- The next power is ten times as large. -/
theorem pow10_succ (n : Nat) : pow10 (n + 1) = 10 * pow10 n := Nat.mul_comm _ _

/-- A power of ten is positive. -/
theorem pow10_pos (n : Nat) : 0 < pow10 n := Nat.pow_pos (by decide)

/-- A power of two is positive. -/
theorem pow2_pos (n : Nat) : 0 < pow2 n := Nat.pow_pos (by decide)

/-- The decimal digits of a natural number, without leading zeros. -/
def digits (n : Nat) : List Char := Nat.toDigits 10 n

/-- How many decimal digits a natural number has; zero has one. -/
def digitCount (n : Nat) : Nat := (digits n).length

/-- The number that a list of digit values spells. -/
def ofDigitValues (ds : List Nat) : Nat := ds.foldl (fun value d => 10 * value + d) 0

/-- One more digit multiplies by ten and adds. -/
theorem ofDigitValues_concat (ds : List Nat) (d : Nat) :
    ofDigitValues (ds ++ [d]) = 10 * ofDigitValues ds + d := by
  simp [ofDigitValues]

/-- The longest integer that is written or read in decimal. -/
def digitLimit : Nat := 4300

/-- An integer with more digits than may be written. -/
def isLong (n : Int) : Bool := decide (pow10 digitLimit ≤ n.natAbs)

/-- A small integer may be written. -/
theorem isLong_eq_false {n : Int} (h : n.natAbs < pow10 digitLimit) : isLong n = false := by
  simpa [isLong] using h

/-- An integer in decimal, with a minus sign if it is negative. -/
def intText (n : Int) : List Char :=
  if n < 0 then '-' :: digits n.natAbs else digits n.natAbs

/-- Natural numbers are written as their digits. -/
theorem intText_natCast (n : Nat) : intText n = digits n := by
  have : ¬ (n : Int) < 0 := by omega
  simp [intText, this]

/-- A non-negative number padded with zeros to at least `width` digits. -/
def padded (width n : Nat) : List Char :=
  List.replicate (width - digitCount n) '0' ++ digits n

end Stencil.Number
