import Stencil.Json.Reader

/-!
# Number addresses

A host may be given by its number: in the short family four bytes with dots between them, in the
long one eight groups of up to four hexadecimal digits with colons between them. Two colons stand
for as many groups of zeros as are missing, and the last two groups may be written as a short
address.
-/

namespace Stencil.Http.Address

/-- A part of a short address: up to three digits for a number below 256, without a leading zero. -/
def byte? (cs : List Char) : Option Nat :=
  let n := Number.ofDigitValues (cs.map fun c => c.toNat - 48)
  if !cs.isEmpty && cs.all Char.isDigit && decide (cs.length ≤ 3) &&
      (cs = ['0'] || cs.head? ≠ some '0') && decide (n < 256) then some n
  else none

/-- The bytes of a short address. -/
def short? (cs : List Char) : Option (List Nat) :=
  let parts := cs.splitOn '.'
  if parts.length = 4 then parts.mapM byte? else none

/-- A part of a long address. -/
def group? (cs : List Char) : Option Nat :=
  if cs.isEmpty || decide (4 < cs.length) then none
  else (cs.mapM Json.hexValue?).map fun ds => ds.foldl (fun n d => 16 * n + d) 0

/-- The parts of a long address; a part that has been read is a number. -/
def longParts? (cs : List Char) : Option (List (List Char ⊕ Nat)) :=
  let parts := cs.splitOn ':'
  match parts.reverse with
  | last :: before =>
    if last.contains '.' then
      match short? last with
      | some [a, b, c, d] =>
        some (before.reverse.map Sum.inl ++ [.inr (256 * a + b), .inr (256 * c + d)])
      | _ => none
    else some (parts.map Sum.inl)
  | [] => none

/-- The number of a part. -/
def value? : List Char ⊕ Nat → Option Nat
  | .inl cs => group? cs
  | .inr n => some n

/-- Whether a part is left out. -/
def isGap (part : List Char ⊕ Nat) : Bool :=
  match part with
  | .inl cs => cs.isEmpty
  | .inr _ => false

/-- The groups of a long address. -/
def long? (cs : List Char) : Option (List Nat) := do
  let parts ← longParts? cs
  let inner := (parts.drop 1).dropLast
  let opens := parts.head?.any isGap
  let closes := parts.getLast?.any isGap
  if (cs.splitOn ':').length < 3 || 9 < parts.length then none
  match (inner.filter isGap).length with
  | 0 => if parts.length = 8 && !opens && !closes then parts.mapM value? else none
  | 1 =>
    if (opens && !inner.head?.any isGap) || (closes && !inner.getLast?.any isGap) then none
    let before ← ((parts.takeWhile fun part => !isGap part)).mapM value?
    let after ← ((parts.reverse.takeWhile fun part => !isGap part)).reverse.mapM value?
    if 7 < before.length + after.length then none
    else some (before ++ List.replicate (8 - before.length - after.length) 0 ++ after)
  | _ => none

/-- Whether a text is a long address. A zone after a percent sign has a name. -/
def isLong (cs : List Char) : Bool :=
  let before := cs.takeWhile (· ≠ '%')
  match cs.drop before.length with
  | [] => (long? cs).isSome
  | _ :: zone => !zone.isEmpty && !zone.contains '%' && !cs.contains '/' && (long? before).isSome

/-- The longest run of zeros of at least two, as its place and its length; of several the first. -/
def zeros (place : Nat) : List Nat → Nat × Nat
  | [] => (0, 0)
  | n :: rest =>
    let run := ((n :: rest).takeWhile (· = 0)).length
    let later := zeros (place + 1) rest
    if 2 ≤ run && later.2 ≤ run then (place, run) else later

/-- Groups as they are written, without a gap. -/
def groupsText (groups : List Nat) : List Char :=
  List.intercalate [':'] (groups.map (Nat.toDigits 16))

/-- The shortest text of a long address. -/
def longText (groups : List Nat) : List Char :=
  let (place, run) := zeros 0 groups
  if run = 0 then groupsText groups
  else groupsText (groups.take place) ++ ':' :: ':' :: groupsText (groups.drop (place + run))

end Stencil.Http.Address
