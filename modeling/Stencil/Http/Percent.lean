import Stencil.Json.Reader

/-!
# Percent encoding

A character that may not stand in a part of an address is written as its bytes, each as a percent
sign and two digits of base sixteen. The percent sign itself may always stand, so what is encoded
already stays as it is.
-/

namespace Stencil.Http.Percent

/-- A digit of base sixteen, in upper case. -/
def hexDigit (n : Nat) : Char := if n < 10 then Char.ofNat (48 + n) else Char.ofNat (55 + n)

/-- A byte as a percent sign and two digits. -/
def byte (b : UInt8) : List Char := ['%', hexDigit (b.toNat / 16), hexDigit (b.toNat % 16)]

/-- A text in which the characters that are not safe are encoded. -/
def encode (isSafe : Char → Bool) (cs : List Char) : List Char :=
  cs.flatMap fun c => if isSafe c then [c] else (String.utf8EncodeChar c).flatMap byte

/-- The bytes that an encoded text stands for. -/
def bytes : List Char → List UInt8
  | [] => []
  | '%' :: a :: b :: rest =>
    match Json.hexValue? a, Json.hexValue? b with
    | some high, some low => (high * 16 + low).toUInt8 :: bytes rest
    | _, _ => 37 :: bytes (a :: b :: rest)
  | c :: rest => String.utf8EncodeChar c ++ bytes rest

/-- A text in which each character has its plainest form. An encoded character that is safe is
decoded, unless it is protected; a percent sign that encodes nothing is encoded itself. -/
def plain (isSafe isProtected : Char → Bool) : List Char → List Char
  | [] => []
  | '%' :: a :: b :: rest =>
    match Json.hexValue? a, Json.hexValue? b with
    | some high, some low =>
      let c := Char.ofNat (high * 16 + low)
      if isSafe c && !isProtected c then c :: plain isSafe isProtected rest
      else '%' :: a.toUpper :: b.toUpper :: plain isSafe isProtected rest
    | _, _ => '%' :: '2' :: '5' :: plain isSafe isProtected (a :: b :: rest)
  | c :: rest => encode isSafe [c] ++ plain isSafe isProtected rest

end Stencil.Http.Percent
