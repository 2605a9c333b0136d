import Stencil.Charset.Name
import Stencil.Failure
import Stencil.Http.Percent
import Stencil.Text.Blank
import Stencil.Text.Normal

/-!
# Parameters of content types

A content type is followed by parameters, which semicolons separate. A value may be quoted. It may
also be continued over several parameters, which have numbers, and it may be given in bytes together
with the charset that they are in. Both are told by asterisks after the name.
-/

namespace Stencil.Http

/-- A value of a parameter. -/
inductive ParameterValue where
  /-- A text. -/
  | plain (text : List Char)
  /-- Bytes, as the characters of the same numbers, with the charset that they are in, if one is
  told. -/
  | coded (charset : List Char) (bytes : List Char)
  deriving DecidableEq, Repr

namespace ContentType

/-- The parts between semicolons, except for those inside of quotes. `part` is the part so far, in
reverse, and `inside` tells whether a quote is open; a quote after a backslash does not count. -/
def splitParts (inside : Bool) (part : List Char) : List Char → List (List Char)
  | [] => [part.reverse]
  | c :: rest =>
    if c = ';' && !inside then part.reverse :: splitParts false [] rest
    else
      let turns := c = '"' && part.head? ≠ some '\\'
      splitParts (if turns then !inside else inside) (c :: part) rest

/-- The name and the value of a part. A name with a value is put in lower case. -/
def nameAndValue (part : List Char) : List Char × List Char :=
  match part.dropWhile (· ≠ '=') with
  | [] => (Text.trim part, [])
  | _ :: value => ((Text.trim (part.takeWhile (· ≠ '='))).map Char.toLower, Text.trim value)

/-- The text with one character for each two that follow each other. -/
def contract (a b c : Char) : List Char → List Char
  | [] => []
  | [d] => [d]
  | d :: e :: rest =>
    if d = a && e = b then c :: contract a b c rest else d :: contract a b c (e :: rest)

/-- A value without the quotes or the pointed brackets around it. -/
def unquoted (cs : List Char) : List Char :=
  let isBetween (first last : Char) : Bool := cs.head? = some first && cs.getLast? = some last
  if cs.length < 2 then cs
  else if isBetween '"' '"' then
    contract '\\' '"' '"' (contract '\\' '\\' '\\' (cs.drop 1).dropLast)
  else if isBetween '<' '>' then (cs.drop 1).dropLast
  else cs

/-- A piece of a value that may be continued. -/
structure Piece where
  /-- The number of the piece, if it has one. -/
  number : Option Nat
  /-- The text. -/
  text : List Char
  /-- Whether the text is percent-encoded. -/
  isEncoded : Bool
  deriving DecidableEq, Repr

/-- Whether a character may stand in the name of a continued parameter. -/
def isNameChar (c : Char) : Bool := c.isAlphanum || c = '_'

/-- The name and the number of a parameter whose name ends with an asterisk or has a number after
it. -/
def continued? (name : List Char) : Option (List Char × Option Nat) :=
  let word := name.takeWhile isNameChar
  match word, name.drop word.length with
  | [], _ => none
  | _, ['*'] => some (word, none)
  | _, '*' :: more =>
    let digits := more.takeWhile Char.isDigit
    let rest := more.drop digits.length
    if digits.isEmpty || !(rest.isEmpty || rest = ['*']) then none
    else some (word, some (digits.foldl (fun n c => n * 10 + (c.toNat - 48)) 0))
  | _, _ => none

/-- Whether a piece comes before another one, or is the same. -/
def Piece.le (a b : Piece) : Bool :=
  let (m, n) := (a.number.getD 0, b.number.getD 0)
  if m ≠ n then m < n
  else if a.text ≠ b.text then a.text < b.text
  else !a.isEncoded || b.isEncoded

/-- The value of pieces in order. If one of them is encoded, the charset and the language of the
bytes come first, before apostrophes. -/
def joined (pieces : List Piece) : ParameterValue :=
  let text := pieces.flatMap fun piece =>
    if piece.isEncoded then (Percent.bytes piece.text).map fun b => Char.ofNat b.toNat
    else piece.text
  if pieces.any Piece.isEncoded then
    match text.splitOn '\'' with
    | charset :: _ :: first :: more => .coded charset (['\''].intercalate (first :: more))
    | _ => .coded [] text
  else .plain text

/-- Puts a piece to those of its name. -/
def addPiece (name : List Char) (piece : Piece) :
    List (List Char × List Piece) → List (List Char × List Piece)
  | [] => [(name, [piece])]
  | entry :: rest =>
    if entry.1 = name then (name, entry.2 ++ [piece]) :: rest
    else entry :: addPiece name piece rest

/-- The pieces of continued values by their names. -/
def piecesOf (parameters : List (List Char × List Char)) : List (List Char × List Piece) :=
  parameters.foldl (fun pieces (name, value) =>
    match continued? name with
    | none => pieces
    | some (word, number) =>
      addPiece word ⟨number, unquoted value, name.getLast? = some '*'⟩ pieces) []

/-- Whether only some of several pieces have numbers, so that they have no order. -/
def isMixed (pieces : List Piece) : Bool :=
  pieces.any (fun piece => piece.number.isSome) && pieces.any fun piece => piece.number.isNone

/-- The parameters of a content type, the type itself first as a name: those in one piece, and then
those that may be continued. -/
def parameters (contentType : List Char) : Outcome (List (List Char × ParameterValue)) :=
  match (splitParts false [] contentType).map nameAndValue with
  | [] => Except.ok []
  | first :: others =>
    let whole := first :: others.filter fun entry => (continued? entry.1).isNone
    let pieces := piecesOf others
    if pieces.any fun entry => isMixed entry.2 then Outcome.defect .type
    else Except.ok <|
      whole.map (fun (name, value) => (name, .plain (unquoted value))) ++
        pieces.map fun (name, pieces) => (name, joined (pieces.mergeSort Piece.le))

/-- The name of the parameter that tells the charset. -/
def charsetName : List Char := "charset".toList

/-- The text of a value. Bytes are read in their charset, if that is known and can read them. -/
def textOf : ParameterValue → Outcome (List Char)
  | .plain text => Except.ok text
  | .coded charset text =>
    let charset := if charset.isEmpty then "us-ascii".toList else charset
    if charset.contains '\x00' then Outcome.defect .value
    else
      match Charset.named? charset with
      | some (.charset c) =>
        match c.readStrictly (text.map fun c => c.toNat.toUInt8) with
        | .ok found => Except.ok found
        | .error _ => Except.ok text
      | _ => Except.ok text

/-- The name of the charset that a content type tells. -/
def charset? (contentType : List Char) : Outcome (Option (List Char)) := do
  match (← parameters contentType).find? fun entry => entry.1.map Char.toLower = charsetName with
  | none => return none
  | some (_, value) =>
    let text ← textOf value
    return if Text.isAscii text then some text else none

end ContentType

end Stencil.Http
