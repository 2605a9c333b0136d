import Stencil.Json.Reader
import Stencil.Text.Alphanumeric
import Stencil.Text.Blank

/-!
# Parameters of handlers

A tag may name a handler and the parameters that it is to be called with. The parameters are written
as literals: numbers with a sign or an imaginary part, texts, bytes, fixed words, and groups, sets
and tables of them. What is no literal is refused; its value is not needed.
-/

namespace Stencil.Console

/-- The smallest part of a literal. -/
inductive ParameterToken where
  /-- A real number. -/
  | real
  /-- An imaginary number. -/
  | imaginary
  /-- A text. -/
  | text
  /-- Bytes. -/
  | bytes
  /-- A fixed word or three dots. -/
  | constant
  /-- The word for an empty set. -/
  | set
  /-- A bracket, a sign or a separator. -/
  | mark (c : Char)
  deriving DecidableEq, Repr

namespace ParameterToken

/-- The digits at the start of a text, single underscores between them left out, and what follows
them. -/
def digits (isDigit : Char → Bool) : List Char → List Char × List Char
  | [] => ([], [])
  | [c] => if isDigit c then ([c], []) else ([], [c])
  | c :: d :: rest =>
    if !isDigit c then ([], c :: d :: rest)
    else
      let (more, after) := match d, rest with
        | '_', e :: _ => if isDigit e then digits isDigit rest else ([], d :: rest)
        | _, _ => digits isDigit (d :: rest)
      (c :: more, after)

/-- Whether a name could go on with a character. -/
def continuesName (c : Char) : Bool := c.isAlphanum || c = '_' || decide (128 ≤ c.toNat)

/-- A token and what follows it, unless a name would touch it. -/
def apart? (token : ParameterToken) (after : List Char) : Option (ParameterToken × List Char) :=
  if after.head?.any continuesName then none else some (token, after)

/-- The rest after a decimal exponent, if there is one. -/
def afterExponent? : List Char → Option (List Char)
  | e :: rest =>
    if e = 'e' || e = 'E' then
      let rest := match rest with
        | '+' :: more => more
        | '-' :: more => more
        | _ => rest
      let (found, after) := digits Char.isDigit rest
      if found.isEmpty then none else some after
    else none
  | [] => none

/-- The most digits that a number may have. -/
def maxDigits : Nat := 4300

/-- The decimal number at the start of a text. A whole number other than zero has no leading
zero. -/
def decimal? (cs : List Char) : Option (ParameterToken × List Char) :=
  let (whole, rest) := digits Char.isDigit cs
  let (fraction, rest, hasPoint) := match rest with
    | '.' :: more =>
      let (fraction, rest) := digits Char.isDigit more
      (fraction, rest, true)
    | _ => ([], rest, false)
  if whole.isEmpty && fraction.isEmpty then none
  else
    let (rest, hasExponent) := match afterExponent? rest with
      | some after => (after, true)
      | none => (rest, false)
    match rest with
    | 'j' :: after => apart? .imaginary after
    | 'J' :: after => apart? .imaginary after
    | _ =>
      if !hasPoint && !hasExponent &&
          ((whole.head? = some '0' && whole.any (· ≠ '0')) || decide (maxDigits < whole.length))
      then none
      else apart? .real rest

/-- The number at the start of a text, which may be written in another base than ten. -/
def number? (cs : List Char) : Option (ParameterToken × List Char) :=
  let inBase (isDigit : Char → Bool) (rest : List Char) : Option (ParameterToken × List Char) :=
    let rest := match rest with
      | '_' :: more => more
      | _ => rest
    let (found, after) := digits isDigit rest
    if found.isEmpty then none else apart? .real after
  match cs with
  | '0' :: base :: rest =>
    if base.toLower = 'x' then inBase (fun c => (Json.hexValue? c).isSome) rest
    else if base.toLower = 'o' then inBase (fun c => '0' ≤ c && c ≤ '7') rest
    else if base.toLower = 'b' then inBase (fun c => c = '0' || c = '1') rest
    else decimal? cs
  | _ => decimal? cs

/-- The character that hexadecimal digits give the number of, if there are as many as asked for. -/
def isCode (count : Nat) (rest : List Char) : Bool :=
  let found := rest.take count
  found.length = count && found.all fun c => (Json.hexValue? c).isSome

/-- Whether a name in braces could be the name of a character. -/
def isCharacterName : List Char → Bool
  | '\x7b' :: rest =>
    let name := rest.takeWhile fun c => c.isUpper || c.isDigit || c = ' ' || c = '-'
    !name.isEmpty && (rest.drop name.length).head? = some '\x7d'
  | _ => false

/-- Whether what follows a backslash may follow it. -/
def isEscape (isBytes : Bool) : List Char → Bool
  | 'x' :: rest => isCode 2 rest
  | 'u' :: rest => isBytes || isCode 4 rest
  | 'U' :: rest =>
    isBytes || (isCode 8 rest && (rest.take 2 = ['0', '0']) &&
      ((rest.drop 2).head? = some '0' || (rest.drop 2).take 2 = ['1', '0']))
  | 'N' :: rest => isBytes || isCharacterName rest
  | _ => true

/-- How a text is written. -/
structure Quoting where
  /-- Its quotation mark. -/
  quote : Char
  /-- Whether there are three of them. -/
  isTriple : Bool
  /-- Whether it stands for bytes. -/
  isBytes : Bool
  /-- Whether a backslash stands for itself. -/
  isRaw : Bool

/-- Whether a character ends a line. -/
def endsLine (c : Char) : Bool := c = '\n' || c = '\r'

/-- What follows the closing quotation mark of a text. -/
def afterQuoted? (q : Quoting) : List Char → Option (List Char)
  | [] => none
  | '\\' :: c :: rest =>
    if q.isRaw || isEscape q.isBytes (c :: rest) then
      if q.isBytes && decide (128 ≤ c.toNat) then none else afterQuoted? q rest
    else none
  | c :: rest =>
    if c = q.quote then
      if !q.isTriple then some rest
      else
        match rest with
        | d :: e :: after =>
          if d = c && e = c then some after else afterQuoted? q (d :: e :: after)
        | _ => none
    else if (endsLine c && !q.isTriple) || (q.isBytes && decide (128 ≤ c.toNat)) then none
    else afterQuoted? q rest

/-- The text at the start of some characters, after the letters that say how it is written. -/
def quoted? (isBytes isRaw : Bool) : List Char → Option (ParameterToken × List Char)
  | a :: b :: c :: rest =>
    let isTriple := b = a && c = a
    (afterQuoted? ⟨a, isTriple, isBytes, isRaw⟩ (if isTriple then rest else b :: c :: rest)).map
      fun after => (if isBytes then .bytes else .text, after)
  | a :: rest =>
    (afterQuoted? ⟨a, false, isBytes, isRaw⟩ rest).map
      fun after => (if isBytes then .bytes else .text, after)
  | [] => none

/-- Whether a character is a quotation mark. -/
def isQuote (c : Char) : Bool := c = '"' || c = '\''

/-- The token at the start of a text, which is no blank. -/
def token? (cs : List Char) : Option (ParameterToken × List Char) :=
  match cs with
  | [] => none
  | c :: rest =>
    if "()\x7b\x7d,:+-".toList.contains c then some (.mark c, rest)
    else if cs.take 3 = ['.', '.', '.'] then some (.constant, cs.drop 3)
    else if c.isDigit || c = '.' then number? cs
    else if isQuote c then quoted? false false cs
    else
      let word := cs.takeWhile continuesName
      let after := cs.drop word.length
      if after.head?.any isQuote then
        match String.ofList (word.map Char.toLower) with
        | "r" => quoted? false true after
        | "u" => quoted? false false after
        | "b" => quoted? true false after
        | "br" => quoted? true true after
        | "rb" => quoted? true true after
        | _ => none
      else
        match String.ofList word with
        | "True" => some (.constant, after)
        | "False" => some (.constant, after)
        | "None" => some (.constant, after)
        | "set" => some (.set, after)
        | _ => none

/-- Whether only blanks and comments are left. -/
def isRemark : Nat → List Char → Bool
  | 0, cs => cs.isEmpty
  | steps + 1, cs =>
    match cs.dropWhile fun c => c = ' ' || c = '\t' || c = '\x0c' || endsLine c with
    | [] => true
    | '#' :: rest => isRemark steps (rest.dropWhile fun c => !endsLine c)
    | _ => false

/-- The tokens of a text. `depth` counts the brackets that are open; outside of all brackets the
text ends with its line. Each step reads a token or a blank. -/
def tokens? : Nat → Nat → List Char → Option (List ParameterToken)
  | 0, _, cs => if cs.isEmpty then some [] else none
  | _ + 1, _, [] => some []
  | steps + 1, depth, c :: rest =>
    if c = ' ' || c = '\t' || c = '\x0c' then tokens? steps depth rest
    else if endsLine c then
      if depth = 0 then (if isRemark steps rest then some [] else none)
      else tokens? steps depth rest
    else if c = '#' then tokens? steps depth (rest.dropWhile fun c => !endsLine c)
    else if c = '\\' then
      match rest with
      | '\r' :: '\n' :: after => tokens? steps depth after
      | '\n' :: after => tokens? steps depth after
      | _ => none
    else
      match token? (c :: rest) with
      | none => none
      | some (token, after) =>
        let depth := match token with
          | .mark c =>
            if c = '(' || c = '\x7b' then depth + 1
            else if c = ')' || c = '\x7d' then depth - 1
            else depth
          | _ => depth
        (tokens? steps depth after).map (token :: ·)

end ParameterToken

/-- What a literal is, as far as others depend on it. -/
inductive ParameterKind where
  /-- A real number without a sign. -/
  | real
  /-- A real number with a sign. -/
  | signed
  /-- An imaginary number without a sign. -/
  | imaginary
  /-- A text, which another one may follow. -/
  | text
  /-- Bytes, which others may follow. -/
  | bytes
  /-- Anything else that may be a member of a set. -/
  | fixed
  /-- What may not be a member of a set. -/
  | changing
  deriving DecidableEq, Repr

/-- How far the literal has been read that is being read. -/
inductive ParameterState where
  /-- Nothing has been read. -/
  | empty
  /-- A sign has been read. -/
  | sign
  /-- A literal has been read. -/
  | complete (kind : ParameterKind)
  /-- A real number and a sign have been read. -/
  | sum
  deriving DecidableEq, Repr

/-- What is known of a bracket that is open. -/
structure ParameterGroup where
  /-- Whether it is a curly one. -/
  isCurly : Bool := false
  /-- Whether a literal and a separator have been read. -/
  hasItems : Bool := false
  /-- Whether all literals so far may be members of a set. -/
  isFixed : Bool := true
  /-- Whether the literals belong to a table. -/
  isTable : Option Bool := none
  /-- Whether the value of a key comes next. -/
  awaitsValue : Bool := false
  /-- The literal that is being read. -/
  current : ParameterState := .empty

namespace ParameterGroup

/-- A group after a literal without a sign. -/
def add? (g : ParameterGroup) (kind : ParameterKind) : Option ParameterGroup :=
  match g.current with
  | .empty => some { g with current := .complete kind }
  | .sign =>
    match kind with
    | .real => some { g with current := .complete .signed }
    | .imaginary => some { g with current := .complete .fixed }
    | _ => none
  | .sum => if kind = .imaginary then some { g with current := .complete .fixed } else none
  | .complete .text => if kind = .text then some g else none
  | .complete .bytes => if kind = .bytes then some g else none
  | .complete _ => none

/-- A group after a sign. -/
def addSign? (g : ParameterGroup) : Option ParameterGroup :=
  match g.current with
  | .empty => some { g with current := .sign }
  | .complete .real => some { g with current := .sum }
  | .complete .signed => some { g with current := .sum }
  | _ => none

/-- A group whose current literal is complete. -/
def finish? (g : ParameterGroup) : Option ParameterGroup :=
  match g.current with
  | .complete kind =>
    let isFixed := kind ≠ .changing
    if !g.isCurly then
      some { g with hasItems := true, isFixed := g.isFixed && isFixed, current := .empty }
    else if g.awaitsValue then
      some { g with hasItems := true, awaitsValue := false, current := .empty }
    else if g.isTable = some true || !isFixed then none
    else some { g with hasItems := true, isTable := some false, current := .empty }
  | _ => none

/-- A group after the colon that follows a key. -/
def addColon? (g : ParameterGroup) : Option ParameterGroup :=
  match g.current with
  | .complete kind =>
    if !g.isCurly || g.awaitsValue || g.isTable = some false || kind = .changing then none
    else some { g with isTable := some true, awaitsValue := true, current := .empty }
  | _ => none

/-- What a group is when its bracket is closed. -/
def close? (g : ParameterGroup) : Option ParameterKind :=
  match g.current with
  | .empty =>
    if g.awaitsValue then none
    else some (if g.isCurly || !g.isFixed then .changing else .fixed)
  | .complete kind =>
    if g.isCurly then g.finish?.map fun _ => .changing
    else if g.hasItems then some (if g.isFixed && kind ≠ .changing then .fixed else .changing)
    else some (if kind = .text || kind = .bytes then .fixed else kind)
  | _ => none

/-- The most brackets that may be open. -/
def maxDepth : Nat := 200

/-- Whether tokens complete the groups that are open, the innermost first. -/
def completes : List ParameterGroup → List ParameterToken → Bool
  | [], _ => false
  | g :: outer, [] => outer.isEmpty &&
      (match g.current with
        | .complete _ => true
        | .empty => g.hasItems
        | _ => false)
  | g :: outer, .set :: .mark '(' :: .mark ')' :: rest =>
    match g.add? .changing with
    | some g => completes (g :: outer) rest
    | none => false
  | g :: outer, token :: rest =>
    let next? : Option (List ParameterGroup) := match token with
      | .real => (g.add? .real).map (· :: outer)
      | .imaginary => (g.add? .imaginary).map (· :: outer)
      | .text => (g.add? .text).map (· :: outer)
      | .bytes => (g.add? .bytes).map (· :: outer)
      | .constant => (g.add? .fixed).map (· :: outer)
      | .set => none
      | .mark c =>
        if c = '+' || c = '-' then g.addSign?.map (· :: outer)
        else if c = ',' then g.finish?.map (· :: outer)
        else if c = ':' then g.addColon?.map (· :: outer)
        else if c = '(' || c = '\x7b' then
          match g.current with
          | .complete _ => none
          | _ => if maxDepth ≤ outer.length then none
              else some ({ isCurly := c = '\x7b' } :: g :: outer)
        else
          match outer with
          | [] => none
          | before :: outer =>
            if g.isCurly ≠ (c = '\x7d') then none
            else (g.close?.bind before.add?).map (· :: outer)
    match next? with
    | some groups => completes groups rest
    | none => false

end ParameterGroup

/-- Whether a text is a literal. -/
def isLiteral (cs : List Char) : Bool :=
  match ParameterToken.tokens? (cs.length + 1) 0 cs with
  | some tokens => ParameterGroup.completes [{}] tokens
  | none => false

/-- A character of the name of a handler. -/
def isHandlerChar (c : Char) : Bool := c = '_' || c = '.' || Text.isAlphanumeric c

/-- What has to be a literal among the parameters of a handler: what stands in brackets after a
name, which may be missing, or else all of them. -/
def handlerLiteral (parameters : List Char) : List Char :=
  let cs := Text.trim parameters
  let name := cs.takeWhile isHandlerChar
  match cs.drop name.length with
  | [] => "()".toList
  | '(' :: rest =>
    if rest.getLast? = some ')' && !rest.contains '\n' then '(' :: rest else cs
  | _ => cs

/-- Whether a handler may have the parameters. None at all are fine. -/
def areParameters (parameters : List Char) : Bool :=
  parameters.isEmpty || isLiteral (handlerLiteral parameters)

end Stencil.Console
