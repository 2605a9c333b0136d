import Stencil.Binary64.Text
import Stencil.Path.Basic

/-!
# Tokens of a path query

Spaces, tabs and line feeds between tokens are skipped. A number with a point is one token wherever
it stands, and an integer of too many digits cannot be read at all. Names in quotes may hold any
characters; a backslash protects the character after it.

These are the tokens of the supported dialect. What has no token makes a query malformed: of the
words in backquotes only the one for the length has one, so `this`, `parent`, `keys`, `path`,
`sorted`, `filter`, `str`, `sub` and `split` have none, nor have the signs of sorting, of matching
and of arithmetic (`\`, `/`, `~`, `+`, `%`, and `-` before anything but a digit). The words `where`
and `wherenot` are told apart from names, but no query holds them.
-/

namespace Stencil.Path

/-- A token. -/
inductive Token where
  /-- The document. -/
  | dollar
  /-- The value at hand. -/
  | here
  /-- A step down. -/
  | dot
  /-- A step to everything below. -/
  | dots
  /-- Everything on the level. -/
  | star
  /-- Separates names or places. -/
  | comma
  /-- Separates the bounds of a slice. -/
  | colon
  /-- Opens brackets. -/
  | opening
  /-- Closes brackets. -/
  | closing
  /-- Opens a group of conditions. -/
  | openGroup
  /-- Closes a group of conditions. -/
  | closeGroup
  /-- Starts a condition. -/
  | question
  /-- Negates a condition. -/
  | bang
  /-- Joins two queries to what both select, or conditions that must both hold. -/
  | ampersand
  /-- Joins two queries to what they select together. -/
  | bar
  /-- Joins conditions that must both hold. -/
  | both
  /-- Joins conditions of which one must hold. -/
  | either
  /-- A relation. -/
  | relation (r : Relation)
  /-- A name without quotes. -/
  | name (s : String)
  /-- A name in quotes. -/
  | quoted (s : String)
  /-- An integer. -/
  | integer (n : Int)
  /-- A number with a point. -/
  | fraction (x : Binary64)
  /-- The length of a value. -/
  | size
  /-- A word that is no name without quotes. -/
  | reserved

/-- Why a text has no tokens. -/
inductive TokenFault where
  /-- Something is no token. -/
  | unknown
  /-- An integer has too many digits. -/
  | tooLong
  deriving DecidableEq, Repr

/-- A character that starts a name. -/
def startsName (c : Char) : Bool := c.isAlpha || c = '_'

/-- Whether a name starts a text. Its first letter may follow an `@`. -/
def nameStarts : List Char → Bool
  | '@' :: c :: _ => startsName c
  | c :: _ => startsName c
  | [] => false

/-- The words that are no names without quotes. -/
def reservedWords : List String := ["where", "wherenot"]

/-- A character that continues a name. -/
def continuesName (c : Char) : Bool := c.isAlphanum || c = '_' || c = '@' || c = '-'

/-- A character that is skipped between tokens. -/
def isSpace (c : Char) : Bool := c = ' ' || c = '\t' || c = '\n'

/-- The rest of a quoted name and what follows it. -/
def readQuoted? (quote : Char) : List Char → Option (List Char × List Char)
  | [] => none
  | c :: rest =>
    if c = quote then some ([], rest)
    else if c = '\\' then
      match rest with
      | [] => none
      | d :: after =>
        if d = '\n' then none
        else (readQuoted? quote after).map fun (name, final) => (d :: name, final)
    else (readQuoted? quote rest).map fun (name, final) => (c :: name, final)

/-- The decimal digits of any script at the start of a text, and what follows them. -/
def spanDigits (cs : List Char) : List Char × List Char :=
  cs.span fun c => (Text.digitValue? c).isSome

/-- The number at the start of a text, after its sign if it has one. -/
def readNumber (negative : Bool) (cs : List Char) : Except TokenFault (Token × List Char) :=
  let (whole, rest) := spanDigits cs
  if whole.isEmpty then .error .unknown
  else
    let signed (digits : List Char) := if negative then '-' :: digits else digits
    let plain := match Number.readInteger? (signed whole) with
      | some n => .ok (.integer n, rest)
      | none => .error .tooLong
    match rest with
    | '.' :: more =>
      let (fraction, after) := spanDigits more
      if fraction.isEmpty then plain
      else
        match Binary64.read? (signed (whole ++ '.' :: fraction)) with
        | some x => .ok (.fraction x, after)
        | none => .error .unknown
    | _ => plain

/-- The token of one or more signs at the start of a text. -/
def readSign? : List Char → Option (Token × List Char)
  | '.' :: '.' :: rest => some (.dots, rest)
  | '=' :: '=' :: rest => some (.relation .eq, rest)
  | '!' :: '=' :: rest => some (.relation .ne, rest)
  | '<' :: '=' :: rest => some (.relation .le, rest)
  | '>' :: '=' :: rest => some (.relation .ge, rest)
  | '&' :: '&' :: rest => some (.both, rest)
  | '|' :: '|' :: rest => some (.either, rest)
  | '|' :: rest => some (.bar, rest)
  | '$' :: rest => some (.dollar, rest)
  | '@' :: rest => some (.here, rest)
  | '.' :: rest => some (.dot, rest)
  | '*' :: rest => some (.star, rest)
  | ',' :: rest => some (.comma, rest)
  | ':' :: rest => some (.colon, rest)
  | '[' :: rest => some (.opening, rest)
  | ']' :: rest => some (.closing, rest)
  | '(' :: rest => some (.openGroup, rest)
  | ')' :: rest => some (.closeGroup, rest)
  | '?' :: rest => some (.question, rest)
  | '!' :: rest => some (.bang, rest)
  | '&' :: rest => some (.ampersand, rest)
  | '=' :: rest => some (.relation .eq, rest)
  | '<' :: rest => some (.relation .lt, rest)
  | '>' :: rest => some (.relation .gt, rest)
  | '\x60' :: 'l' :: 'e' :: 'n' :: '\x60' :: rest => some (.size, rest)
  | _ => none

/-- The name at the start of a text without quotes. -/
def readName (cs : List Char) : Token × List Char :=
  let name := String.ofList (cs.takeWhile continuesName)
  (if reservedWords.contains name then .reserved else .name name, cs.dropWhile continuesName)

/-- The token at the start of a text. -/
def readToken (cs : List Char) : Except TokenFault (Token × List Char) :=
  match cs with
  | [] => .error .unknown
  | c :: rest =>
    if nameStarts cs then .ok (readName cs)
    else if (Text.digitValue? c).isSome then readNumber false cs
    else if c = '-' then readNumber true rest
    else
      let found := if c = '\'' || c = '"' then
          (readQuoted? c rest).map fun (name, after) => (Token.quoted (String.ofList name), after)
        else readSign? cs
      match found with
      | some found => .ok found
      | none => .error .unknown

/-- The tokens of a text. Every token takes at least one character, so the length of the text
bounds their number. -/
def tokensFrom : Nat → List Char → Except TokenFault (List Token)
  | 0, _ => .ok []
  | steps + 1, cs =>
    match cs.dropWhile isSpace with
    | [] => .ok []
    | body =>
      match readToken body with
      | .error fault => .error fault
      | .ok (token, rest) => (tokensFrom steps rest).map (token :: ·)

/-- The tokens of a text. -/
def tokens (cs : List Char) : Except TokenFault (List Token) := tokensFrom cs.length cs

end Stencil.Path
