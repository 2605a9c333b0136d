import Stencil.Deflate.Block

/-!
# Packed data with a header

Packed data comes with a header, which tells how it is packed, and with a checksum after it. There
are two such forms, a short one and the one of files. Data that ends too early is unpacked as far as
it goes; what follows the checksum is left alone.
-/

namespace Stencil.Deflate

/-- The sum that goes with the short form. -/
def sum (bs : Array UInt8) : Nat :=
  let (a, b) := bs.foldl (fun (a, b) x =>
    let a := (a + x.toNat) % 65521
    (a, (b + a) % 65521)) (1, 0)
  b * 65536 + a

/-- One bit less of a remainder. -/
def shiftRemainder (r : UInt32) : UInt32 :=
  if r % 2 = 1 then (r >>> 1) ^^^ 0xEDB88320 else r >>> 1

/-- The remainder after one more byte. -/
def addRemainder (r : UInt32) (b : UInt8) : UInt32 :=
  (List.range 8).foldl (fun r _ => shiftRemainder r) (r ^^^ b.toUInt32)

/-- The remainder that goes with the form of files. -/
def remainder (bs : Array UInt8) : Nat :=
  (bs.foldl addRemainder 0xFFFFFFFF ^^^ 0xFFFFFFFF).toNat

/-- The bytes up to a zero and those after it, if there is one. -/
def afterZero? (bs : List UInt8) : Option (List UInt8) :=
  match bs.dropWhile (· ≠ 0) with
  | [] => none
  | _ :: rest => some rest

/-- The bytes after the extra field of a header; none if there are not enough. -/
def afterExtra? (bs : List UInt8) : Option (List UInt8) :=
  match bs with
  | a :: b :: rest =>
    let length := a.toNat + 256 * b.toNat
    if length ≤ rest.length then some (rest.drop length) else none
  | _ => none

/-- The bytes after the texts of a header of the form of files; none if there are not enough. -/
def afterTexts? (flags : Nat) (bs : List UInt8) : Option (List UInt8) := do
  let rest ← if flags.testBit 2 then afterExtra? bs else some bs
  let rest ← if flags.testBit 3 then afterZero? rest else some rest
  if flags.testBit 4 then afterZero? rest else some rest

/-- The bytes after a header of the form of files; none if there are not enough. -/
def afterFileHeader (bs : List UInt8) : Except Fault (Option (List UInt8)) :=
  match bs with
  | a :: b :: more =>
    if a ≠ 0x1F || b ≠ 0x8B then .error .header
    else
      match more with
      | method :: flags :: more =>
        if method ≠ 8 then .error .method
        else if flags.toNat / 32 ≠ 0 then .error .flags
        else if more.length < 6 then .ok none
        else
          match afterTexts? flags.toNat (more.drop 6) with
          | none => .ok none
          | some rest =>
            if flags.toNat.testBit 1 then
              match rest with
              | c :: d :: rest =>
                let head := (bs.take (bs.length - rest.length - 2)).toArray
                if c.toNat + 256 * d.toNat = remainder head % 65536 then .ok (some rest)
                else .error .headerCheck
              | _ => .ok none
            else .ok (some rest)
      | _ => .ok none
  | _ => .ok none

/-- The number of bytes, the highest one first. -/
def bigNumber (bs : List UInt8) : Nat := bs.foldl (fun n b => 256 * n + b.toNat) 0

/-- The bytes of a number of bits, eight each. -/
def restBytes (bits : List Bool) : List UInt8 := (bytesOf (bits.length / 8) bits #[]).toList

/-- Unpacks data in the form of files. -/
def unpackFile (bs : List UInt8) : Except Fault (List UInt8) := do
  match ← afterFileHeader bs with
  | none => return []
  | some rest =>
    let progress ← unpack (bitsOf rest)
    let tail := (progress.rest.map restBytes).getD []
    if 4 ≤ tail.length && bigNumber (tail.take 4).reverse ≠ remainder progress.out then
      throw .dataCheck
    if 8 ≤ tail.length &&
        bigNumber ((tail.drop 4).take 4).reverse ≠ progress.out.size % 4294967296 then
      throw .lengthCheck
    return progress.out.toList

/-- The bytes after a header of the short form; none if there are not enough. -/
def afterShortHeader (bs : List UInt8) : Except Fault (Option (List UInt8)) :=
  match bs with
  | a :: b :: rest =>
    if (256 * a.toNat + b.toNat) % 31 ≠ 0 then .error .header
    else if a.toNat % 16 ≠ 8 then .error .method
    else if 7 < a.toNat / 16 then .error .window
    else if b.toNat.testBit 5 then
      if rest.length < 4 then .ok none else .error .dictionary
    else .ok (some rest)
  | _ => .ok none

/-- Unpacks data in the short form. -/
def unpackShort (bs : List UInt8) : Except Fault (List UInt8) := do
  match ← afterShortHeader bs with
  | none => return []
  | some rest =>
    let progress ← unpack (bitsOf rest)
    let tail := (progress.rest.map restBytes).getD []
    if 4 ≤ tail.length && bigNumber (tail.take 4) ≠ sum progress.out then throw .dataCheck
    return progress.out.toList

/-- Unpacks data in the short form, or else without a header. -/
def unpackAny (bs : List UInt8) : Except Fault (List UInt8) :=
  match unpackShort bs with
  | .ok out => .ok out
  | .error _ => (unpack (bitsOf bs)).map fun progress => progress.out.toList

end Stencil.Deflate
