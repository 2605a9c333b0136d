import Stencil.Binary64.Text
import Stencil.Decimal.Text
import Stencil.Failure
import Stencil.Value.Basic

/-!
# Reading JSON text

A text is read from left to right. Fractions and numbers with an exponent are kept as decimal
numbers, or as the nearest binary ones; integers keep all their digits up to the longest length.
A name that an object holds twice keeps its first place and its last value. Besides standard JSON
the words `NaN`, `Infinity` and `-Infinity` are read.

Texts are made of Unicode scalar values. Half of a surrogate pair, which an escape can spell, is
none: it is read as the replacement character U+FFFD, so that names which differ in such a half only
are one name here.
-/

namespace Stencil.Json

/-- What numbers with a point or an exponent are read as. -/
inductive Fractions where
  /-- Exact decimal numbers. -/
  | exact
  /-- The nearest binary numbers. -/
  | binary
  deriving DecidableEq, Repr

/-- Why reading stops. -/
inductive Stop where
  /-- A problem at the place where `rest` begins. -/
  | fault (problem : Problem) (rest : List Char)
  /-- A number that cannot be held. -/
  | defect (d : Defect)
  deriving Repr

/-- A value or part of one, and the text that follows. -/
abbrev Read (α : Type) := Except Stop (α × List Char)

/-- The characters between tokens. -/
def isSpace (c : Char) : Bool := c = ' ' || c = '\t' || c = '\n' || c = '\r'

/-- The text without its leading space. -/
def skip (cs : List Char) : List Char := cs.dropWhile isSpace

/-- The value of a digit of base sixteen. -/
def hexValue? (c : Char) : Option Nat :=
  if c.isDigit then some (c.toNat - 48)
  else if 'a' ≤ c && c ≤ 'f' then some (c.toNat - 87)
  else if 'A' ≤ c && c ≤ 'F' then some (c.toNat - 55)
  else none

/-- The code unit of four digits, if more text follows them. -/
def codeUnit? : List Char → Option (Nat × List Char)
  | a :: b :: c :: d :: next :: rest => do
    let a ← hexValue? a
    let b ← hexValue? b
    let c ← hexValue? c
    let d ← hexValue? d
    return (((a * 16 + b) * 16 + c) * 16 + d, next :: rest)
  | _ => none

/-- Whether a code unit is the first half of a pair. -/
def isHighHalf (n : Nat) : Bool := decide (0xD800 ≤ n ∧ n < 0xDC00)

/-- Whether a code unit is the second half of a pair. -/
def isLowHalf (n : Nat) : Bool := decide (0xDC00 ≤ n ∧ n < 0xE000)

/-- The character for half of a pair that stands alone. -/
def replacement : Char := Char.ofNat 0xFFFD

/-- The character of a code unit that is not the first half of a complete pair. -/
def unitChar (n : Nat) : Char :=
  if isHighHalf n || isLowHalf n then replacement else Char.ofNat n

/-- The character of a pair. -/
def pairChar (high low : Nat) : Char :=
  Char.ofNat (0x10000 + (high - 0xD800) * 0x400 + (low - 0xDC00))

/-- The second half of a pair, if it is written next. -/
def lowHalf? : List Char → Option (Nat × List Char)
  | '\\' :: 'u' :: rest => (codeUnit? rest).filter fun found => isLowHalf found.1
  | _ => none

/-- The character that an escape by code point stands for; `rest` follows the letter `u`. -/
def readCodePoint? (rest : List Char) : Option (Char × List Char) :=
  match codeUnit? rest with
  | none => none
  | some (unit, after) =>
    match (if isHighHalf unit then lowHalf? after else none) with
    | some (low, final) => some (pairChar unit low, final)
    | none => some (unitChar unit, after)

/-- The character that a backslash and a letter stand for. -/
def shortEscape? (c : Char) : Option Char :=
  match c with
  | '"' => some '"'
  | '\\' => some '\\'
  | '/' => some '/'
  | 'b' => some '\x08'
  | 'f' => some '\x0c'
  | 'n' => some '\n'
  | 'r' => some '\r'
  | 't' => some '\t'
  | _ => none

/-- The rest of a string whose opening quote is the first character of `opening`. Each step reads
one character of the string, so the length of the text bounds the steps. -/
def stringTail (opening : List Char) : Nat → List Char → Read (List Char)
  | 0, _ => .error (.fault .unterminated opening)
  | _ + 1, [] => .error (.fault .unterminated opening)
  | steps + 1, c :: rest =>
    if c = '"' then .ok ([], rest)
    else if c.toNat < 32 then .error (.fault .control (c :: rest))
    else if c = '\\' then
      match rest with
      | [] => .error (.fault .unterminated opening)
      | 'u' :: digits =>
        match readCodePoint? digits with
        | none => .error (.fault .codePoint rest)
        | some (d, after) =>
          (stringTail opening steps after).map fun (ds, final) => (d :: ds, final)
      | e :: after =>
        match shortEscape? e with
        | none => .error (.fault .escape (c :: rest))
        | some d => (stringTail opening steps after).map fun (ds, final) => (d :: ds, final)
    else (stringTail opening steps rest).map fun (ds, final) => (c :: ds, final)

/-- The string whose opening quote stands before `rest`. -/
def readString (rest : List Char) : Read String :=
  (stringTail ('"' :: rest) (rest.length + 1) rest).map fun (cs, after) => (String.ofList cs, after)

/-- The digits at the start of a text and what follows them. -/
def spanDigits (cs : List Char) : List Char × List Char :=
  (cs.takeWhile Char.isDigit, cs.dropWhile Char.isDigit)

/-- The point and digits at the start of a text, if there are both. -/
def spanFraction : List Char → List Char × List Char
  | '.' :: rest =>
    match spanDigits rest with
    | ([], _) => ([], '.' :: rest)
    | (ds, after) => ('.' :: ds, after)
  | cs => ([], cs)

/-- The sign of an exponent and what follows it. -/
def spanSign : List Char → List Char × List Char
  | '+' :: rest => (['+'], rest)
  | '-' :: rest => (['-'], rest)
  | cs => ([], cs)

/-- The exponent at the start of a text, if there is a complete one. -/
def spanExponent : List Char → List Char × List Char
  | c :: rest =>
    if c = 'e' || c = 'E' then
      let (sign, body) := spanSign rest
      match spanDigits body with
      | ([], _) => ([], c :: rest)
      | (ds, after) => (c :: sign ++ ds, after)
    else ([], c :: rest)
  | [] => ([], [])

/-- The whole part of a number: a zero, or digits that start with another digit. -/
def spanWhole : List Char → List Char × List Char
  | '0' :: rest => (['0'], rest)
  | cs => spanDigits cs

/-- A number from its parts as they were written. -/
def numberOf (fractions : Fractions) (negative : Bool) (whole fraction exponent : List Char) :
    Except Stop Value :=
  let spelled := whole ++ fraction ++ exponent
  let signed := if negative then '-' :: spelled else spelled
  if fraction.isEmpty && exponent.isEmpty then
    match Number.readInteger? signed with
    | some n => .ok (.int n)
    | none => .error (.defect .value)
  else match fractions with
    | .exact =>
      match Decimal.read? signed with
      | some d => .ok (.decimal d)
      | none => .error (.defect .invalidOperation)
    | .binary =>
      match Binary64.read? signed with
      | some x => .ok (.binary x)
      | none => .error (.defect .value)

/-- The number at the start of a text. `start` is where its sign or first digit stands. -/
def readNumber (fractions : Fractions) (start : List Char) (negative : Bool) (body : List Char) :
    Read Value :=
  match spanWhole body with
  | ([], _) => .error (.fault .value start)
  | (whole, rest) =>
    let (fraction, rest) := spanFraction rest
    let (exponent, rest) := spanExponent rest
    (numberOf fractions negative whole fraction exponent).map fun v => (v, rest)

/-- The words that stand for values, with the value of each. -/
def words : List (List Char × Value) := [
  ("null".toList, .null),
  ("true".toList, .bool true),
  ("false".toList, .bool false),
  ("NaN".toList, .binary .undefined),
  ("Infinity".toList, .binary (.infinite false)),
  ("-Infinity".toList, .binary (.infinite true))]

/-- The text after a word that it starts with. -/
def after? : List Char → List Char → Option (List Char)
  | [], cs => some cs
  | w :: ws, c :: cs => if w = c then after? ws cs else none
  | _ :: _, [] => none

/-- A word or a number at the start of a text. -/
def readPlain (fractions : Fractions) (cs : List Char) : Read Value :=
  match words.findSome? fun (word, v) => (after? word cs).map fun rest => (v, rest) with
  | some found => .ok found
  | none =>
    match cs with
    | '-' :: rest => readNumber fractions cs true rest
    | _ => readNumber fractions cs false cs

mutual

/-- The value at the start of a text. Values of a list or object are read with one step less, so
the length of the text bounds the steps. -/
def readValue (fractions : Fractions) : Nat → List Char → Read Value
  | 0, cs => .error (.fault .value cs)
  | steps + 1, cs =>
    match cs with
    | '"' :: rest => (readString rest).map fun (s, after) => (.text s, after)
    | '[' :: rest =>
      match skip rest with
      | ']' :: after => .ok (.list [], after)
      | inside => (readItems fractions steps inside).map fun (items, after) => (.list items, after)
    | '\x7b' :: rest =>
      match skip rest with
      | '\x7d' :: after => .ok (.object [], after)
      | inside =>
        (readMembers fractions steps inside).map fun (members, after) =>
          (.object (Fields.ofList members), after)
    | _ => readPlain fractions cs

/-- The items of a list, of which at least one must follow, up to its closing bracket. -/
def readItems (fractions : Fractions) : Nat → List Char → Read (List Value)
  | 0, cs => .error (.fault .value cs)
  | steps + 1, cs =>
    match readValue fractions steps cs with
    | .error stop => .error stop
    | .ok (item, after) =>
      match skip after with
      | ']' :: rest => .ok ([item], rest)
      | ',' :: rest =>
        (readItems fractions steps (skip rest)).map fun (items, final) => (item :: items, final)
      | other => .error (.fault .comma other)

/-- The members of an object, of which at least one must follow, up to its closing brace. -/
def readMembers (fractions : Fractions) : Nat → List Char → Read (List (Key × Value))
  | 0, cs => .error (.fault .name cs)
  | steps + 1, cs =>
    match cs with
    | '"' :: rest =>
      match readString rest with
      | .error stop => .error stop
      | .ok (name, after) =>
        match skip after with
        | ':' :: body =>
          match readValue fractions steps (skip body) with
          | .error stop => .error stop
          | .ok (item, after) =>
            match skip after with
            | '\x7d' :: rest => .ok ([(.text name, item)], rest)
            | ',' :: rest =>
              (readMembers fractions steps (skip rest)).map fun (members, final) =>
                ((.text name, item) :: members, final)
            | other => .error (.fault .comma other)
        | other => .error (.fault .colon other)
    | _ => .error (.fault .name cs)

end

/-- The failure that a stop is reported as, in a text. -/
def failureOf (text : List Char) : Stop → Failure
  | .fault problem rest => .json (Fault.locate problem text (text.length - rest.length))
  | .defect d => .defect d

/-- The value that a whole text spells. -/
def readChars (fractions : Fractions) (text : List Char) : Outcome Value :=
  match text with
  | '\uFEFF' :: _ => .error (failureOf text (.fault .byteOrderMark text))
  | _ =>
    match readValue fractions (2 * text.length + 1) (skip text) with
    | .error stop => .error (failureOf text stop)
    | .ok (v, after) =>
      match skip after with
      | [] => .ok v
      | rest => .error (failureOf text (.fault .extra rest))

/-- The value that a string spells, with exact fractions. -/
def read (s : String) : Outcome Value := readChars .exact s.toList

end Stencil.Json
