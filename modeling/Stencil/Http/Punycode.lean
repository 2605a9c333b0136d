/-!
# Host names of other scripts

A label of a host name that is not ASCII is written with ASCII characters: first its ASCII
characters, then, for every other one in the order of code points, the distance from the one
before, as digits of a variable base. The base adapts to the distances seen so far.
-/

namespace Stencil.Http.Punycode

/-- The character of a digit below 36. -/
def digitChar (d : Nat) : Char := if d < 26 then Char.ofNat (97 + d) else Char.ofNat (22 + d)

/-- The least value of the last digit at a position. -/
def threshold (position bias : Nat) : Nat :=
  if position ≤ bias then 1 else if bias + 26 ≤ position then 26 else position - bias

/-- A threshold lies between 1 and 26. -/
theorem threshold_bounds (position bias : Nat) :
    1 ≤ threshold position bias ∧ threshold position bias ≤ 26 := by
  unfold threshold
  split
  · omega
  · split <;> omega

/-- The bias that a scaled distance leads to. -/
def settle (delta steps : Nat) : Nat :=
  if 455 < delta then settle (delta / 35) (steps + 36) else steps + 36 * delta / (delta + 38)
termination_by delta
decreasing_by omega

/-- The bias after a distance. -/
def adapt (delta points : Nat) (isFirst : Bool) : Nat :=
  let scaled := if isFirst then delta / 700 else delta / 2
  settle (scaled + scaled / points) 0

/-- The digits of a distance. -/
def digits (bias position q : Nat) : List Char :=
  let t := threshold position bias
  if q < t then [digitChar q]
  else digitChar (t + (q - t) % (36 - t)) :: digits bias (position + 36) ((q - t) / (36 - t))
termination_by q
decreasing_by
  have bounds := threshold_bounds position bias
  have small := Nat.div_le_self (q - threshold position bias) (36 - threshold position bias)
  omega

/-- What is known between two characters. -/
structure Progress where
  /-- The characters written so far. -/
  written : List Char := []
  /-- The distance from the character before. -/
  delta : Nat := 0
  /-- The bias of the next distance. -/
  bias : Nat := 72
  /-- How many characters of the label have been dealt with. -/
  done : Nat

/-- Passes a character of the label while those with the code point `code` are written. -/
def pass (basic code : Nat) (p : Progress) (c : Char) : Progress :=
  if c.toNat < code then { p with delta := p.delta + 1 }
  else if c.toNat = code then
    { written := p.written ++ digits p.bias 36 p.delta
      delta := 0
      bias := adapt p.delta (p.done + 1) (p.done = basic)
      done := p.done + 1 }
  else p

/-- Writes the characters of each of the given code points, which are in order. -/
def passes (label : List Char) (basic : Nat) : List Nat → Nat → Progress → Progress
  | [], _, p => p
  | code :: rest, least, p =>
    let p := { p with delta := p.delta + (code - least) * (p.done + 1) }
    let p := label.foldl (pass basic code) p
    passes label basic rest (code + 1) { p with delta := p.delta + 1 }

/-- A number put into its place among numbers in order, once. -/
def insertCode (n : Nat) : List Nat → List Nat
  | [] => [n]
  | m :: rest =>
    if n < m then n :: m :: rest
    else if n = m then m :: rest
    else m :: insertCode n rest

/-- The ASCII form of a label, without the mark that shows that it is one. -/
def encode (label : List Char) : List Char :=
  let basic := label.filter fun c => decide (c.toNat < 128)
  let codes := (label.filter fun c => decide (128 ≤ c.toNat)).foldl
    (fun codes c => insertCode c.toNat codes) []
  let found := passes label basic.length codes 128 { done := basic.length }
  basic ++ (if basic.isEmpty then [] else ['-']) ++ found.written

/-- The value of a digit. -/
def digitValue? (c : Char) : Option Nat :=
  if 'a' ≤ c && c ≤ 'z' then some (c.toNat - 97)
  else if 'A' ≤ c && c ≤ 'Z' then some (c.toNat - 65)
  else if c.isDigit then some (c.toNat - 22)
  else none

/-- The distance at the start of a text, and what follows its digits. `weight` is what the next
digit counts for, and `value` what the digits before it are worth. -/
def distance? (bias : Nat) : Nat → Nat → Nat → List Char → Option (Nat × List Char)
  | _, _, _, [] => none
  | position, weight, value, c :: rest =>
    match digitValue? c with
    | none => none
    | some d =>
      let t := threshold position bias
      if d < t then some (value + d * weight, rest)
      else distance? bias (position + 36) (weight * (36 - t)) (value + d * weight) rest

/-- A distance has at least one digit. -/
theorem length_distance? {bias position weight value : Nat} {cs : List Char}
    {found : Nat × List Char} (h : distance? bias position weight value cs = some found) :
    found.2.length < cs.length := by
  induction cs generalizing position weight value with
  | nil => simp [distance?] at h
  | cons c rest ih =>
    rw [distance?] at h
    split at h
    · simp at h
    · dsimp only at h
      split at h
      · rw [← Option.some.inj h]
        simp
      · have := ih h
        simp only [List.length_cons]
        omega

/-- Puts in the characters that distances tell. `code` is the code point of the last one, `place`
where the next one could stand, and `label` the text so far. -/
def putIn? (bias code place : Nat) (isFirst : Bool) (label cs : List Char) :
    Option (List Char) :=
  if cs.isEmpty then some label
  else
    match _found : distance? bias 36 1 0 cs with
    | none => none
    | some (delta, rest) =>
      let count := label.length + 1
      let code := code + (place + delta) / count
      let here := (place + delta) % count
      if 0x110000 ≤ code then none
      else
        let character := if Nat.isValidChar code then Char.ofNat code else '\ufffd'
        putIn? (adapt delta count isFirst) code (here + 1) false
          (label.take here ++ character :: label.drop here) rest
termination_by cs.length
decreasing_by exact length_distance? _found

/-- Puts in the characters that distances tell, up to what is no distance. A code point that is too
large leaves a question mark, from which the next distance counts. -/
def putInTolerantly (bias code place : Nat) (isFirst : Bool) (label cs : List Char) : List Char :=
  match _found : distance? bias 36 1 0 cs with
  | none => label
  | some (delta, rest) =>
    let count := label.length + 1
    let code := code + (place + delta) / count
    let here := (place + delta) % count
    let code := if 0x110000 ≤ code then '?'.toNat else code
    let character := if Nat.isValidChar code then Char.ofNat code else '\ufffd'
    putInTolerantly (adapt delta count isFirst) code (here + 1) false
      (label.take here ++ character :: label.drop here) rest
termination_by cs.length
decreasing_by exact length_distance? _found

/-- The label that an ASCII form stands for. -/
def decode? (cs : List Char) : Option (List Char) :=
  let coded := (cs.reverse.takeWhile (· ≠ '-')).reverse
  let basic := (cs.take (cs.length - coded.length)).dropLast
  putIn? 72 128 0 true basic coded

end Stencil.Http.Punycode
