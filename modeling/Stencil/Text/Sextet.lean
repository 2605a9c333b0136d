/-!
# Bytes in base sixty-four

Three bytes are four digits of base sixty-four; equals signs fill up the digits of fewer bytes. A
reader passes over all other characters, and what follows digits that are filled up does not count.
-/

namespace Stencil.Text

/-- The digits of base sixty-four. -/
def sextets : List Char :=
  "ABCDEFGHIJKLMNOPQRSTUVWXYZabcdefghijklmnopqrstuvwxyz0123456789+/".toList

/-- The character of a digit of base sixty-four. -/
def sextet (n : Nat) : Char := sextets.getD n '='

/-- The value of a digit of base sixty-four. -/
def sextet? (c : Char) : Option Nat := sextets.idxOf? c

/-- Bytes in base sixty-four. -/
def inSextets : List UInt8 → List Char
  | [] => []
  | [a] =>
    let n := a.toNat * 65536
    [sextet (n / 262144), sextet (n / 4096 % 64), '=', '=']
  | [a, b] =>
    let n := a.toNat * 65536 + b.toNat * 256
    [sextet (n / 262144), sextet (n / 4096 % 64), sextet (n / 64 % 64), '=']
  | a :: b :: c :: rest =>
    let n := a.toNat * 65536 + b.toNat * 256 + c.toNat
    sextet (n / 262144) :: sextet (n / 4096 % 64) :: sextet (n / 64 % 64) :: sextet (n % 64) ::
      inSextets rest

/-- The bytes of digits whose value so far is kept: `place` digits of a group of four have the value
`held`, of which the last bits belong to no byte yet, and `fill` equals signs have followed them.
Digits without an end are none. -/
def readSextets? (place held fill : Nat) : List Char → Option (List UInt8)
  | [] => if place = 0 then some [] else none
  | c :: rest =>
    if c = '=' then
      if 2 ≤ place then
        if 4 ≤ place + fill + 1 then some [] else readSextets? place held (fill + 1) rest
      else readSextets? place held fill rest
    else
      match sextet? c with
      | none => readSextets? place held fill rest
      | some n =>
        match place with
        | 0 => readSextets? 1 n 0 rest
        | 1 => (readSextets? 2 (n % 16) 0 rest).map (UInt8.ofNat (held * 4 + n / 16) :: ·)
        | 2 => (readSextets? 3 (n % 4) 0 rest).map (UInt8.ofNat (held * 16 + n / 4) :: ·)
        | _ => (readSextets? 0 0 0 rest).map (UInt8.ofNat (held * 64 + n) :: ·)

/-- The bytes of a text in base sixty-four, if its digits are filled up. -/
def ofSextets? (cs : List Char) : Option (List UInt8) := readSextets? 0 0 0 cs

end Stencil.Text
