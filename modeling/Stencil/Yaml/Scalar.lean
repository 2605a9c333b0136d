import Stencil.Json.Reader
import Stencil.Yaml.Cursor

/-!
# Scalars of a YAML text

The texts that a document consists of: quoted ones, plain ones, and blocks. Line ends inside a
quoted or plain scalar are folded: a single one becomes a space, and each further one stays.
-/

namespace Stencil.Yaml

/-- A piece of a scalar and the place after it. -/
abbrev Scanned (α : Type) := Except Fault (α × Cursor)

/-- Breaking the rules of the format. -/
def malformed {α : Type} : Except Fault α := .error .malformed

/-- The character that a letter after a backslash stands for. -/
def escapeOf? (c : Char) : Option Char :=
  match c with
  | '0' => some endChar
  | 'a' => some '\x07'
  | 'b' => some '\x08'
  | 't' => some '\t'
  | '\t' => some '\t'
  | 'n' => some '\n'
  | 'v' => some '\x0b'
  | 'f' => some '\x0c'
  | 'r' => some '\r'
  | 'e' => some '\x1b'
  | ' ' => some ' '
  | '"' => some '"'
  | '\\' => some '\\'
  | '/' => some '/'
  | 'N' => some '\u0085'
  | '_' => some '\u00A0'
  | 'L' => some '\u2028'
  | 'P' => some '\u2029'
  | _ => none

/-- How many digits follow a letter that starts an escape by code point. -/
def escapeLength? (c : Char) : Option Nat :=
  match c with
  | 'x' => some 2
  | 'u' => some 4
  | 'U' => some 8
  | _ => none

/-- The number that digits of base sixteen spell. -/
def hexNumber? (cs : List Char) : Option Nat :=
  cs.foldlM (fun n c => (Json.hexValue? c).map fun d => n * 16 + d) 0

/-- The character of a code point. -/
def charOf (code : Nat) : Except Fault Char :=
  if code < 0x110000 then .ok (Json.unitChar code)
  else if code < 0x80000000 then .error (.defect .value)
  else .error (.defect .overflow)

/-- Further line ends of a folded scalar; the text may not be separated here. Each step reads a line
end, so the length of the text bounds the steps. -/
def foldedBreaks : Nat → Cursor → Scanned (List Char)
  | 0, _ => malformed
  | steps + 1, c =>
    if c.atSeparator then malformed
    else
      let c := c.dropWhile fun ch => ch = ' ' || ch = '\t'
      match c.lineBreak? with
      | none => .ok ([], c)
      | some (ch, c) => (foldedBreaks steps c).map fun (chs, c) => (ch :: chs, c)

/-- What a first line end and the further ones after it leave in a folded scalar. -/
def foldBreaks (first : Char) (further : List Char) : List Char :=
  if first ≠ '\n' then first :: further
  else if further.isEmpty then [' '] else further

/-- The blanks and line ends between the words of a quoted scalar. -/
def quotedSpaces (c : Cursor) : Scanned (List Char) :=
  let (blanks, c) := c.span fun ch => ch = ' ' || ch = '\t'
  if c.peek = endChar then malformed
  else
    match c.lineBreak? with
    | none => .ok (blanks, c)
    | some (first, c) =>
      (foldedBreaks (c.rest.length + 1) c).map fun (further, c) => (foldBreaks first further, c)

/-- A character that ends a run of ordinary characters in a quoted scalar. -/
def endsRun (c : Char) : Bool := c = '\'' || c = '"' || c = '\\' || isBlankOrEnd c

/-- What a backslash stands for; the place is after it. -/
def quotedEscape (c : Cursor) : Scanned (List Char) :=
  match escapeOf? c.peek with
  | some ch => if c.rest.isEmpty then malformed else .ok ([ch], c.next)
  | none =>
    match escapeLength? c.peek with
    | some length =>
      let c := c.next
      let ds := c.rest.take length
      if ds.length < length then malformed
      else
        match hexNumber? ds with
        | none => malformed
        | some code => (charOf code).map fun ch => ([ch], c.skip length)
    | none =>
      match c.lineBreak? with
      | none => malformed
      | some (_, c) => foldedBreaks (c.rest.length + 1) c

/-- The characters of a quoted scalar up to the next blank, line end or closing quote. Each step
reads at least one character. -/
def quotedWord (double : Bool) : Nat → Cursor → Scanned (List Char)
  | 0, c => .ok ([], c)
  | steps + 1, c =>
    let (run, c) := c.span fun ch => !endsRun ch
    let ch := c.peek
    if !double && ch = '\'' && c.peekAt 1 = '\'' then
      (quotedWord double steps (c.skip 2)).map fun (more, c) => (run ++ '\'' :: more, c)
    else if (double && ch = '\'') || (!double && (ch = '"' || ch = '\\')) then
      (quotedWord double steps c.next).map fun (more, c) => (run ++ ch :: more, c)
    else if double && ch = '\\' then
      match quotedEscape c.next with
      | .error fault => .error fault
      | .ok (escaped, c) =>
        (quotedWord double steps c).map fun (more, c) => (run ++ escaped ++ more, c)
    else .ok (run, c)

/-- The rest of a quoted scalar up to its closing quote. Each step reads at least one character. -/
def quotedRest (double : Bool) : Nat → Cursor → Scanned (List Char)
  | 0, _ => malformed
  | steps + 1, c =>
    if c.peek = (if double then '"' else '\'') then .ok ([], c.next)
    else
      match quotedSpaces c with
      | .error fault => .error fault
      | .ok (spaces, c) =>
        match quotedWord double (c.rest.length + 1) c with
        | .error fault => .error fault
        | .ok (word, c) =>
          (quotedRest double steps c).map fun (more, c) => (spaces ++ word ++ more, c)

/-- A quoted scalar whose opening quote is at the place. -/
def quotedScalar (double : Bool) (c : Cursor) : Scanned (List Char) :=
  match quotedWord double (c.rest.length + 1) c.next with
  | .error fault => .error fault
  | .ok (word, c) =>
    (quotedRest double (c.rest.length + 2) c).map fun (more, c) => (word ++ more, c)

/-- A character that ends a word of a plain scalar, given the one after it. -/
def endsPlain (flow : Bool) (ch after : Char) : Bool :=
  isBlankOrEnd ch ||
    (ch = ':' && (isBlankOrEnd after ||
      (flow && (after = ',' || after = '[' || after = ']' || after = '\x7b' || after = '\x7d')))) ||
    (flow && (ch = ',' || ch = '?' || ch = '[' || ch = ']' || ch = '\x7b' || ch = '\x7d'))

/-- The word at the start of a text. -/
def plainWord (flow : Bool) : List Char → List Char
  | [] => []
  | ch :: rest =>
    if endsPlain flow ch (rest.headD endChar) then [] else ch :: plainWord flow rest

/-- The spaces and line ends after a first line end in a plain scalar; none if the document ends
there. -/
def plainBreaks : Nat → Cursor → Option (List Char × Cursor)
  | 0, c => some ([], c)
  | steps + 1, c =>
    let c := c.dropSpaces
    match c.lineBreak? with
    | none => some ([], c)
    | some (ch, c) =>
      if c.atSeparator then none
      else (plainBreaks steps c).map fun (chs, c) => (ch :: chs, c)

/-- The gap after a word of a plain scalar. -/
structure Gap where
  /-- What the gap leaves in the scalar; empty if the scalar ends. -/
  chars : List Char
  /-- Whether the gap holds a line end. -/
  broken : Bool
  /-- The place after the gap. -/
  cursor : Cursor

/-- The gap at a place. -/
def plainGap (c : Cursor) : Gap :=
  let (spaces, c) := c.span (· = ' ')
  match c.lineBreak? with
  | none => ⟨spaces, false, c⟩
  | some (first, c) =>
    if c.atSeparator then ⟨[], true, c⟩
    else
      match plainBreaks (c.rest.length + 1) c with
      | none => ⟨[], true, (c.dropWhile fun ch => ch = ' ' || isBreak ch)⟩
      | some (further, c) => ⟨foldBreaks first further, true, c⟩

/-- A plain scalar: its text, whether it ended after a line end, and the place after it. -/
structure Plain where
  /-- The text. -/
  chars : List Char
  /-- Whether the last thing read was a line end. -/
  broken : Bool
  /-- The place after the scalar. -/
  cursor : Cursor

/-- The words of a plain scalar from the place on. `gap` is what stands before them, and lines
indented less than `indent` end the scalar. Each step reads a word. -/
def plainWords (flow : Bool) (indent : Nat) : Nat → List Char → Bool → Cursor → Plain
  | 0, _, broken, c => ⟨[], broken, c⟩
  | steps + 1, gap, broken, c =>
    if c.peek = '#' then ⟨[], broken, c⟩
    else
      let word := plainWord flow c.rest
      if word.isEmpty then ⟨[], broken, c⟩
      else
        let after := plainGap (c.skip word.length)
        if after.chars.isEmpty || after.cursor.peek = '#' ||
            (!flow && after.cursor.column < indent) then
          ⟨gap ++ word, after.broken, after.cursor⟩
        else
          let more := plainWords flow indent steps after.chars after.broken after.cursor
          ⟨gap ++ word ++ more.chars, more.broken, more.cursor⟩

/-- A plain scalar at the place. -/
def plainScalar (flow : Bool) (indent : Nat) (c : Cursor) : Plain :=
  plainWords flow indent (c.rest.length + 1) [] false c

/-- How the end of a block is kept. -/
inductive Chomping where
  /-- The last line end is kept. -/
  | clip
  /-- No line end is kept. -/
  | strip
  /-- All line ends are kept. -/
  | keep
  deriving DecidableEq, Repr

/-- The chomping that a sign stands for. -/
def chompingOf? (c : Char) : Option Chomping :=
  if c = '+' then some .keep else if c = '-' then some .strip else none

/-- The indentation that a digit stands for. -/
def incrementOf? (c : Char) : Option Nat := if c.isDigit then some (c.toNat - 48) else none

/-- The header of a block after its first character: how it is chomped and how far it is indented,
in either order. -/
def blockHeader (c : Cursor) : Scanned (Chomping × Option Nat) :=
  let found : (Chomping × Option Nat) × Cursor :=
    match chompingOf? c.peek, incrementOf? c.peek with
    | some chomping, _ =>
      match incrementOf? (c.peekAt 1) with
      | some n => ((chomping, some n), c.skip 2)
      | none => ((chomping, none), c.next)
    | none, some n =>
      match chompingOf? (c.peekAt 1) with
      | some chomping => ((chomping, some n), c.skip 2)
      | none => ((.clip, some n), c.next)
    | none, none => ((.clip, none), c)
  if found.1.2 = some 0 || !isSpaceOrEnd found.2.peek then malformed else .ok found

/-- The empty lines at the start of a block, and the deepest indentation seen on them. -/
def blockIndentation : Nat → Nat → Cursor → List Char × Nat × Cursor
  | 0, deepest, c => ([], deepest, c)
  | steps + 1, deepest, c =>
    let c := c.dropSpaces
    let deepest := max deepest c.column
    match c.lineBreak? with
    | none => ([], deepest, c)
    | some (ch, c) =>
      let (chs, deepest, c) := blockIndentation steps deepest c
      (ch :: chs, deepest, c)

/-- The place after the spaces up to a column. -/
def dropIndent : Nat → Cursor → Cursor
  | 0, c => c
  | n + 1, c => if c.peek = ' ' then dropIndent n c.next else c

/-- The empty lines between the lines of a block of the given indentation. -/
def blockBreaks (indent : Nat) : Nat → Cursor → List Char × Cursor
  | 0, c => ([], c)
  | steps + 1, c =>
    let c := dropIndent (indent - c.column) c
    match c.lineBreak? with
    | none => ([], c)
    | some (ch, c) =>
      let (chs, c) := blockBreaks indent steps c
      (ch :: chs, c)

/-- The lines of a block of the given indentation. `breaks` are the empty lines before the next
one. The result ends with the last line end and the empty lines after it. -/
def blockLines (folded : Bool) (indent : Nat) :
    Nat → List Char → Cursor → List Char × List Char × List Char × Cursor
  | 0, breaks, c => ([], [], breaks, c)
  | steps + 1, breaks, c =>
    if c.column ≠ indent || c.peek = endChar then ([], [], breaks, c)
    else
      let leading := c.peek ≠ ' ' && c.peek ≠ '\t'
      let (line, c) := c.span fun ch => !isLineEnd ch
      let (last, c) := match c.lineBreak? with
        | none => ([], c)
        | some (ch, c) => ([ch], c)
      let (further, c) := blockBreaks indent (c.rest.length + 1) c
      if c.column = indent && c.peek ≠ endChar then
        let joint :=
          if folded && last = ['\n'] && leading && c.peek ≠ ' ' && c.peek ≠ '\t' then
            (if further.isEmpty then [' '] else [])
          else last
        let (more, final, rest, c) := blockLines folded indent steps further c
        (breaks ++ line ++ joint ++ more, final, rest, c)
      else (breaks ++ line, last, further, c)

/-- A block scalar whose first character is at the place. `minimum` is the least indentation. -/
def blockScalar (folded : Bool) (minimum : Nat) (c : Cursor) : Scanned (List Char) :=
  match blockHeader c.next with
  | .error fault => .error fault
  | .ok ((chomping, increment), c) =>
    match c.ignoredLine? with
    | none => malformed
    | some c =>
      let least := max minimum 1
      let (breaks, indent, c) := match increment with
        | none =>
          let (breaks, deepest, c) := blockIndentation (c.rest.length + 1) 0 c
          (breaks, max least deepest, c)
        | some n =>
          let indent := least + n - 1
          let (breaks, c) := blockBreaks indent (c.rest.length + 1) c
          (breaks, indent, c)
      let (body, last, rest, c) := blockLines folded indent (c.rest.length + 1) breaks c
      let ending := match chomping with
        | .clip => last
        | .strip => []
        | .keep => last ++ rest
      .ok (body ++ ending, c)

end Stencil.Yaml
