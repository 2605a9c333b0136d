import Stencil.Http.ContentType
import Stencil.Text.Digit

/-!
# Content types by their grammar

By the grammar of content types, blanks and comments may stand around the names and the values of
parameters, and a value is a word or a text in quotes. What does not follow the grammar is passed
over up to the next semicolon. Of parameters with the same name the first one counts, unless they
continue each other.
-/

namespace Stencil.Http.MediaType

/-- A blank of the grammar. -/
def isSpace (c : Char) : Bool := c = ' ' || c = '\t'

/-- A character that ends a word. -/
def isWordEnd (c : Char) : Bool := isSpace c || "()<>@,:;\\\"[]/?=".toList.contains c

/-- A character that ends a name. -/
def isNameEnd (c : Char) : Bool := isWordEnd c || "*'%".toList.contains c

/-- A character that ends a value that is not in quotes. -/
def isValueEnd (c : Char) : Bool := isNameEnd c && c ≠ '%'

/-- The text without the blanks and comments at its start. `depth` tells how many comments are open,
and `blank` whether a blank comes before. -/
def skipFolds (depth : Nat) (blank : Bool) : List Char → List Char
  | [] => []
  | c :: rest =>
    if depth = 0 then
      if c = '(' then skipFolds 1 false rest
      else if isSpace c || (blank && Text.isBlank c) then skipFolds 0 true rest
      else c :: rest
    else
      match c, rest with
      | '\\', d :: more =>
        if isSpace d then skipFolds depth false (d :: more) else skipFolds depth false more
      | '(', rest => skipFolds (depth + 1) false rest
      | ')', rest => skipFolds (depth - 1) false rest
      | _, rest => skipFolds depth false rest

/-- The text up to a quote, and what follows the quote. A backslash stands before a character that
is taken as it is, unless a blank follows it. -/
def readQuoted (escaped : Bool) : List Char → List Char × List Char
  | [] => ([], [])
  | c :: rest =>
    if c = '\\' && !escaped then readQuoted true rest
    else if c = '"' && !escaped then ([], rest)
    else
      let (text, after) := readQuoted false rest
      (c :: text, after)

/-- The text up to the next semicolon outside of quotes and comments is passed over. Each step takes
a character at least. -/
def skipJunk : Nat → List Char → List Char
  | _, [] => []
  | 0, cs => cs
  | steps + 1, c :: rest =>
    if c = ';' then c :: rest
    else if c = '"' then skipJunk steps (readQuoted false rest).2
    else if c = '(' then skipJunk steps (skipFolds 1 false rest)
    else skipJunk steps rest

/-- A run of characters before one that ends it, and what follows; there has to be one at least. -/
def run? (isEnd : Char → Bool) (cs : List Char) : Option (List Char × List Char) :=
  let run := cs.takeWhile fun c => !isEnd c
  if run.isEmpty then none else some (run, cs.drop run.length)

/-- A run of characters with blanks and comments around it. -/
def word? (isEnd : Char → Bool) (cs : List Char) : Option (List Char × List Char) :=
  (run? isEnd (skipFolds 0 false cs)).map fun (run, rest) => (run, skipFolds 0 false rest)

/-- A text after an opening quote, with the blanks and comments after it. -/
def quoted (cs : List Char) : List Char × List Char :=
  let (text, rest) := readQuoted false cs
  (text, skipFolds 0 false rest)

/-- A value: a text in quotes or a word. -/
def value? (cs : List Char) : Option (List Char × List Char) :=
  match skipFolds 0 false cs with
  | '"' :: rest => some (quoted rest)
  | rest => word? isValueEnd rest

/-- A parameter. -/
structure Parameter where
  /-- The name. -/
  name : List Char
  /-- The number of the piece of a value, if it has one. -/
  number : Option Nat := none
  /-- Whether the value may tell a charset and be percent-encoded. -/
  isCoded : Bool := false
  /-- The charset. -/
  charset : List Char := "us-ascii".toList
  /-- The value. -/
  value : List Char := []
  deriving DecidableEq, Repr

/-- Why there is no parameter. -/
inductive ParameterFault where
  /-- The text does not follow the grammar. -/
  | invalid
  /-- The text ends where it cannot. -/
  | ending
  deriving DecidableEq, Repr

/-- What follows the grammar, or else a fault. -/
def orInvalid {α : Type} : Option α → Except ParameterFault α
  | some a => .ok a
  | none => .error .invalid

/-- The number after an asterisk, and what follows it. -/
def number? : List Char → Option (Nat × List Char)
  | '*' :: rest =>
    let digits := rest.takeWhile fun c => (Text.digitValue? c).isSome
    if digits.isEmpty then none
    else some (Number.ofDigitValues (digits.filterMap Text.digitValue?), rest.drop digits.length)
  | _ => none

/-- Whether a text in quotes is a coded value in spite of them. -/
def isCodedText (isFirst : Bool) (text : List Char) : Except ParameterFault Bool :=
  if isFirst then
    if text.head? = some '\'' then .ok true
    else (orInvalid (run? isNameEnd text)).map fun found => found.2.head? = some '\''
  else
    .ok <| match run? isValueEnd text with
      | some (_, rest) => rest.isEmpty
      | none => false

/-- What follows the language of a coded value, which stands between apostrophes. -/
def afterLanguage (cs : List Char) : Except ParameterFault (List Char) :=
  match cs with
  | '\'' :: [] => .ok []
  | '\'' :: '\'' :: rest => .ok rest
  | '\'' :: rest => do
    match ← orInvalid (run? isNameEnd rest) with
    | (_, '\'' :: rest) => return rest
    | _ => throw .invalid
  | _ => .error .invalid

/-- The value of a parameter, of which the name and the marks after it are known, and what follows
it. `after` is what follows the quotes if the value is a coded one in quotes. -/
def readValue (p : Parameter) (cs : List Char) (after : Option (List Char)) :
    Except ParameterFault (Parameter × List Char) := do
  let isLater := 0 < p.number.getD 0
  let (first, rest) ←
    if cs.head? = some '\'' then pure (none, cs)
    else (orInvalid (value? cs)).map fun (text, rest) => (some text, rest)
  if (!p.isCoded || isLater) && rest.head? ≠ some '\'' then
    return ({ p with value := first.getD [] }, after.getD rest)
  if rest.isEmpty then return ({ p with value := first.getD [] }, after.getD [])
  let p := { p with charset := first.getD p.charset }
  let rest ← afterLanguage rest
  match after with
  | some after =>
    if rest.isEmpty then throw .ending
    let (text, _) := readQuoted false (rest.filter (· ≠ '"'))
    return ({ p with value := text }, after)
  | none =>
    let (text, rest) ← orInvalid (value? rest)
    return ({ p with value := text }, rest)

/-- The parameter at the start of a text, and what follows it. -/
def parameter (cs : List Char) : Except ParameterFault (Parameter × List Char) := do
  let (name, rest) ← orInvalid (word? isNameEnd cs)
  if rest.isEmpty || rest.head? = some ';' then return ({ name }, rest)
  let (number, rest) := match number? rest with
    | some (n, rest) => (some n, rest)
    | none => (none, rest)
  if rest.isEmpty then throw .invalid
  let isCoded := rest.head? = some '*'
  match if isCoded then rest.drop 1 else rest with
  | [] => throw .ending
  | '=' :: rest =>
    let p : Parameter := { name, number, isCoded }
    match skipFolds 0 false rest with
    | '"' :: inside =>
      if isCoded then
        let (text, after) := quoted inside
        if ← isCodedText (number.getD 0 = 0) text then readValue p text (some after)
        else readValue p ('"' :: inside) none
      else readValue p ('"' :: inside) none
    | rest => readValue p rest none
  | _ => throw .invalid

/-- The parameters of a text. Each step takes a character at least. -/
def parameters : Nat → List Char → Except ParameterFault (List Parameter)
  | 0, _ => .ok []
  | _, [] => .ok []
  | steps + 1, c :: rest =>
    let next (cs : List Char) : List Char := (skipJunk cs.length cs).drop 1
    match parameter (c :: rest) with
    | .ok (p, rest) => (parameters steps (next rest)).map (p :: ·)
    | .error .invalid => parameters steps (next (skipFolds 0 false (c :: rest)))
    | .error .ending => .error .ending

/-- The value of coded pieces: bytes in a charset, or else ASCII. -/
def decoded (charset text : List Char) : Outcome (List Char) :=
  let bytes := Percent.bytes text
  let known := match Charset.named? charset with
    | some (.charset c) => c
    | _ => Charset.ascii
  match known.readStrictly bytes with
  | .ok found => Except.ok found
  | .error .undecodable =>
    Outcome.defect (if bytes.all fun b => b < 128 then .decode else .encode)
  | .error .refused => Outcome.defect .encoding

/-- The values of pieces that follow each other, from a number on. A piece out of order counts only
if it is coded. -/
def joined (charset : List Char) : Nat → List Parameter → Outcome (List Char)
  | _, [] => Except.ok []
  | n, p :: rest => do
    if p.isCoded then return (← decoded charset p.value) ++ (← joined charset (n + 1) rest)
    else if p.number.getD 0 = n then return p.value ++ (← joined charset (n + 1) rest)
    else joined charset n rest

/-- The value of the parameters of one name. -/
def valueOf (ps : List Parameter) : Outcome (List Char) :=
  match ps.mergeSort fun p q => decide (p.number.getD 0 ≤ q.number.getD 0) with
  | [] => Except.ok []
  | [p] => joined p.charset 0 [p]
  | p :: q :: rest =>
    if !p.isCoded && q.number.getD 0 = 0 then joined p.charset 0 [p]
    else joined p.charset 0 (p :: q :: rest)

/-- The names of parameters and their values, in the order in which the names first come. -/
def valuesOf (ps : List Parameter) : Outcome (List (List Char × List Char)) :=
  let names := (ps.map fun p => Text.trim p.name).eraseDups
  names.mapM fun name =>
    (valueOf (ps.filter fun p => Text.trim p.name = name)).map fun value => (name, value)

/-- A value in quotes. -/
def inQuotes (cs : List Char) : List Char :=
  '"' :: cs.flatMap (fun c => if c = '"' || c = '\\' then ['\\', c] else [c]) ++ ['"']

/-- The text of what parameters mean, after a semicolon each. -/
def textOf (values : List (List Char × List Char)) : List Char :=
  values.flatMap fun (name, value) =>
    ';' :: ' ' :: name ++ (if value.isEmpty then [] else '=' :: inQuotes value)

/-- What follows the type and its subtype, which are words with a slash between them, from the first
semicolon on. -/
def afterType (cs : List Char) : List Char :=
  let junk (cs : List Char) : List Char := skipJunk cs.length cs
  match word? isWordEnd cs with
  | some (_, '/' :: rest) =>
    match word? isWordEnd rest with
    | some (_, rest) => junk rest
    | none => junk rest
  | some (_, rest) => junk rest
  | none => junk cs

/-- The name of the charset that a content type tells by its grammar. -/
def charset? (contentType : List Char) : Outcome (Option (List Char)) :=
  let after := afterType contentType
  match parameters (contentType.length + 1) (after.drop 1) with
  | .error _ => Outcome.defect .index
  | .ok ps => do
    let text := contentType.take (contentType.length - after.length) ++ textOf (← valuesOf ps)
    let plain := (← ContentType.parameters text).drop 1
    match plain.reverse.find? fun entry => entry.1 = ContentType.charsetName with
    | some (_, .plain text) => return some text
    | some (_, .coded _ text) => return some text
    | none => return none

end Stencil.Http.MediaType
