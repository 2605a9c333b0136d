import Stencil.Json.Reader

/-!
# Code points in bytes

The code points of a text are written as units of one, two or four bytes. Reading gives a character
or nothing for each piece of the bytes: nothing where no character can be read. A tolerant reader
puts a replacement in such a place, a strict one refuses the whole text.
-/

namespace Stencil.Charset

/-- The order of the bytes of a unit. -/
inductive ByteOrder where
  /-- The most significant byte first. -/
  | big
  /-- The least significant byte first. -/
  | little
  deriving DecidableEq, Repr

/-- How many bytes follow a first byte, and the bounds of the first of them. `lone` tells whether a
half of a pair may stand alone. -/
def lead? (lone : Bool) (b : Nat) : Option (Nat × Nat × Nat) :=
  if 0xC2 ≤ b && b ≤ 0xDF then some (1, 0x80, 0xBF)
  else if b = 0xE0 then some (2, 0xA0, 0xBF)
  else if b = 0xED then some (2, 0x80, if lone then 0xBF else 0x9F)
  else if 0xE1 ≤ b && b ≤ 0xEF then some (2, 0x80, 0xBF)
  else if b = 0xF0 then some (3, 0x90, 0xBF)
  else if b = 0xF4 then some (3, 0x80, 0x8F)
  else if 0xF1 ≤ b && b ≤ 0xF3 then some (3, 0x80, 0xBF)
  else none

/-- The number that further bytes complete, if there are enough of them, and the bytes after it. -/
def complete : Nat → Nat → Nat → Nat → List UInt8 → Option Nat × List UInt8
  | 0, _, _, value, rest => (some value, rest)
  | _ + 1, _, _, _, [] => (none, [])
  | count + 1, low, high, value, b :: rest =>
    if low ≤ b.toNat && b.toNat ≤ high then
      complete count 0x80 0xBF (value * 64 + b.toNat % 64) rest
    else (none, b :: rest)

/-- Completing takes bytes away. -/
theorem length_complete (count low high value : Nat) (bs : List UInt8) :
    (complete count low high value bs).2.length ≤ bs.length := by
  induction count generalizing low high value bs with
  | zero => simp [complete]
  | succ count ih =>
    cases bs with
    | nil => simp [complete]
    | cons b rest =>
      unfold complete
      split
      · exact Nat.le_trans (ih ..) (Nat.le_succ _)
      · simp

/-- The bits of a first byte that belong to the code point. -/
def leadBits (count b : Nat) : Nat :=
  if count = 1 then b % 32 else if count = 2 then b % 16 else b % 8

/-- The characters of bytes, one to four bytes each. -/
def readUtf8 (lone : Bool) : List UInt8 → List (Option Char)
  | [] => []
  | b :: rest =>
    if b.toNat < 128 then some (Char.ofNat b.toNat) :: readUtf8 lone rest
    else
      match lead? lone b.toNat with
      | none => none :: readUtf8 lone rest
      | some (count, low, high) =>
        let found := complete count low high (leadBits count b.toNat) rest
        found.1.map Json.unitChar :: readUtf8 lone found.2
termination_by bs => bs.length
decreasing_by
  · simp
  · simp
  · have shorter := length_complete count low high (leadBits count b.toNat) rest
    simp only [List.length_cons]
    omega

/-- Two bytes as a unit. -/
def pair (order : ByteOrder) (a b : UInt8) : Nat :=
  match order with
  | .big => a.toNat * 256 + b.toNat
  | .little => b.toNat * 256 + a.toNat

/-- The units of two bytes. A byte that is left over is none. -/
def pairs (order : ByteOrder) : List UInt8 → List (Option Nat)
  | [] => []
  | [_] => [none]
  | a :: b :: rest => some (pair order a b) :: pairs order rest

/-- The character of a unit of two bytes that makes no pair with the one after it. Half a pair
stands for itself where lone halves are read, and for nothing elsewhere. -/
def unpaired (lone : Bool) (unit : Nat) : Option Char :=
  if (Json.isHighHalf unit || Json.isLowHalf unit) && !lone then none else some (Json.unitChar unit)

/-- The characters of units of two bytes. The first half of a pair and a byte that is left over are
one fault together. -/
def readUtf16 (lone : Bool) : List (Option Nat) → List (Option Char)
  | [] => []
  | none :: rest => none :: readUtf16 lone rest
  | [some unit, none] => if Json.isHighHalf unit then [none] else [unpaired lone unit, none]
  | some unit :: some next :: rest =>
    if Json.isHighHalf unit && Json.isLowHalf next then
      some (Json.pairChar unit next) :: readUtf16 lone rest
    else unpaired lone unit :: readUtf16 lone (some next :: rest)
  | some unit :: rest => unpaired lone unit :: readUtf16 lone rest

/-- The characters of units of four bytes. -/
def readUtf32 (lone : Bool) (order : ByteOrder) : List UInt8 → List (Option Char)
  | a :: b :: c :: d :: rest =>
    let code := match order with
      | .big => pair .big a b * 65536 + pair .big c d
      | .little => pair .little c d * 65536 + pair .little a b
    let isHalf := Json.isHighHalf code || Json.isLowHalf code
    (if code < 0x110000 && (lone || !isHalf) then some (Json.unitChar code) else none) ::
      readUtf32 lone order rest
  | [] => []
  | _ => [none]

/-- The order that a byte order mark of two bytes tells, and what follows the mark. -/
def marked16? : List UInt8 → Option (ByteOrder × List UInt8)
  | 0xFF :: 0xFE :: rest => some (.little, rest)
  | 0xFE :: 0xFF :: rest => some (.big, rest)
  | _ => none

/-- The order that a byte order mark of four bytes tells, and what follows the mark. -/
def marked32? : List UInt8 → Option (ByteOrder × List UInt8)
  | 0xFF :: 0xFE :: 0 :: 0 :: rest => some (.little, rest)
  | 0 :: 0 :: 0xFE :: 0xFF :: rest => some (.big, rest)
  | _ => none

/-- The byte order mark in units of one byte. -/
def mark8 : List UInt8 := [0xEF, 0xBB, 0xBF]

/-- The bytes without the byte order mark in units of one byte. -/
def withoutMark (bs : List UInt8) : List UInt8 :=
  if mark8.isPrefixOf bs then bs.drop mark8.length else bs

/-- The characters of pieces, with a replacement where there is none. -/
def tolerant (pieces : List (Option Char)) : List Char :=
  pieces.map fun c => c.getD Json.replacement

/-- The characters of pieces, if there is none without. -/
def strict? (pieces : List (Option Char)) : Option (List Char) := pieces.mapM id

/-- The characters of bytes as units of one byte, with replacements. -/
def text8 (bs : List UInt8) : List Char := tolerant (readUtf8 false bs)

/-- How the bytes of a JSON text are read: the marks and the zeros among the first four bytes tell
it. A half of a pair may stand alone. -/
def readJson (bs : List UInt8) : List (Option Char) :=
  let in16 (order : ByteOrder) : List (Option Char) := readUtf16 true (pairs order bs)
  match marked32? bs, marked16? bs with
  | some (order, rest), _ => readUtf32 true order rest
  | none, some (order, rest) => readUtf16 true (pairs order rest)
  | none, none =>
    match bs with
    | 0xEF :: 0xBB :: 0xBF :: rest => readUtf8 true rest
    | a :: b :: c :: d :: _ =>
      if a = 0 then (if b = 0 then readUtf32 true .big bs else in16 .big)
      else if b = 0 then (if c = 0 && d = 0 then readUtf32 true .little bs else in16 .little)
      else readUtf8 true bs
    | [a, b] => if a = 0 then in16 .big else if b = 0 then in16 .little else readUtf8 true bs
    | _ => readUtf8 true bs

end Stencil.Charset
