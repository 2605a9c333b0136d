import Stencil.Charset.Basic

/-!
# Escaped characters

Bytes stand for the first 256 code points, and others are escaped: a backslash and a letter come
before the digits of the code point. One form has these escapes only, another one also has those for
line ends, marks and octal digits.
-/

namespace Stencil.Charset

/-- The value of a byte that is a digit of base sixteen. -/
def digit? (b : UInt8) : Option Nat := Json.hexValue? (Char.ofNat b.toNat)

/-- The number of digits of base sixteen, of which `value` are the ones before, if there are enough,
and how many have been read. -/
def hexDigits : Nat → Nat → Nat → List UInt8 → Option Nat × Nat
  | 0, value, seen, _ => (some value, seen)
  | _ + 1, _, seen, [] => (none, seen)
  | count + 1, value, seen, b :: rest =>
    match digit? b with
    | some d => hexDigits count (value * 16 + d) (seen + 1) rest
    | none => (none, seen)

/-- The step of an escape with digits after a backslash and a letter. -/
def hexStep (count : Nat) (rest : List UInt8) : Step :=
  let (found, seen) := hexDigits count 0 0 rest
  match found with
  | some code =>
    if code < 0x110000 then ([some (Json.unitChar code)], seen + 1) else ([none], seen + 1)
  | none => ([none], seen + 1)

/-- A step of the form with escapes for code points only. -/
def rawStep (b : UInt8) (rest : List UInt8) : Step :=
  if b ≠ 0x5C then .same b
  else
    match rest with
    | [] => .same b
    | c :: more =>
      if c = 0x75 then hexStep 4 more
      else if c = 0x55 then hexStep 8 more
      else ([some '\\', some (Char.ofNat c.toNat)], 1)

/-- The form with escapes for code points only. -/
def escapedPlainly : Charset := .ofPieces (readBy rawStep)

/-- The character that a backslash and a letter stand for. -/
def letterEscape? (b : UInt8) : Option (List Char) :=
  match Char.ofNat b.toNat with
  | '\n' => some []
  | '\\' => some ['\\']
  | '\'' => some ['\'']
  | '"' => some ['"']
  | 'b' => some ['\x08']
  | 'f' => some ['\x0c']
  | 't' => some ['\t']
  | 'n' => some ['\n']
  | 'r' => some ['\r']
  | 'v' => some ['\x0b']
  | 'a' => some ['\x07']
  | _ => none

/-- Whether a byte is an octal digit. -/
def isOctal (b : UInt8) : Bool := 0x30 ≤ b && b ≤ 0x37

/-- The step of an escape with octal digits. -/
def octalStep (rest : List UInt8) : Step :=
  let run := (rest.take 3).takeWhile isOctal
  let code := run.foldl (fun n b => n * 8 + (b.toNat - 0x30)) 0
  ([some (Char.ofNat code)], run.length)

/-- The step of an escape by name, after its letter. No name is known. -/
def nameStep (rest : List UInt8) : Step :=
  match rest with
  | 0x7B :: more =>
    let name := more.takeWhile (· ≠ 0x7D)
    let closed := if name.length < more.length && !name.isEmpty then 1 else 0
    ([none], name.length + 2 + closed)
  | _ => ([none], 1)

/-- A step of the form with all escapes. -/
def escapedStep (b : UInt8) (rest : List UInt8) : Step :=
  if b ≠ 0x5C then .same b
  else
    match rest with
    | [] => .unknown
    | c :: more =>
      match letterEscape? c with
      | some chars => (chars.map some, 1)
      | none =>
        if isOctal c then octalStep rest
        else if c = 0x78 then hexStep 2 more
        else if c = 0x75 then hexStep 4 more
        else if c = 0x55 then hexStep 8 more
        else if c = 0x4E then nameStep more
        else ([some '\\', some (Char.ofNat c.toNat)], 1)

/-- The form with all escapes. -/
def escaped : Charset := .ofPieces (readBy escapedStep)

end Stencil.Charset
