import Stencil.Yaml.Scalar

/-!
# Tokens of a YAML text

Collections are told by indentation or by brackets. A key need not be marked: it is recognised by
the colon after it, so the place where a key may have started is remembered, and the mark is put
there once the colon is found. A remembered key must end on its line and within 1024 characters.
-/

namespace Stencil.Yaml

/-- The name of a tag: its handle, if it has one, and the rest. -/
structure TagName where
  /-- The handle, which stands for the start of the name. -/
  handle : Option String
  /-- The rest of the name. -/
  suffix : String
  deriving DecidableEq, Repr

/-- A line before a document that says how to read it. -/
inductive Directive where
  /-- The version of the format. -/
  | version (major : Nat)
  /-- What a handle stands for. -/
  | handle (name prefixText : String)
  /-- Any other directive. -/
  | other
  deriving DecidableEq, Repr

/-- A token. -/
inductive Token where
  /-- A directive. -/
  | directive (d : Directive)
  /-- The start of a document. -/
  | documentStart
  /-- The end of a document. -/
  | documentEnd
  /-- The start of a list told by indentation. -/
  | blockListStart
  /-- The start of a mapping told by indentation. -/
  | blockMapStart
  /-- The end of a collection told by indentation. -/
  | blockEnd
  /-- The start of a list in brackets. -/
  | flowListStart
  /-- The end of a list in brackets. -/
  | flowListEnd
  /-- The start of a mapping in braces. -/
  | flowMapStart
  /-- The end of a mapping in braces. -/
  | flowMapEnd
  /-- The start of an item told by indentation. -/
  | blockEntry
  /-- The comma between items in brackets. -/
  | flowEntry
  /-- The start of a key. -/
  | key
  /-- The start of a value. -/
  | value
  /-- A reference to an anchored node. -/
  | alias (name : String)
  /-- A name for the node that follows. -/
  | anchor (name : String)
  /-- The tag of the node that follows. -/
  | tag (name : TagName)
  /-- A scalar, and whether it stands without quotes. -/
  | scalar (text : String) (isPlain : Bool)
  deriving DecidableEq, Repr

/-- A place where a key may have started. -/
structure PossibleKey where
  /-- How many tokens came before. -/
  position : Nat
  /-- Whether only a key can stand here. -/
  required : Bool
  /-- The place. -/
  index : Nat
  /-- The line of the place. -/
  line : Nat
  /-- The column of the place. -/
  column : Nat
  deriving Repr

/-- What is known between two tokens. -/
structure Scanner where
  /-- The place in the text. -/
  cursor : Cursor
  /-- The tokens so far, the last one first. -/
  tokens : List Token := []
  /-- The indentation of the innermost collection; -1 outside of all. -/
  indent : Int := -1
  /-- The indentations of the collections around it, the innermost first. -/
  outer : List Int := []
  /-- For each open bracket and for the text around them, the innermost first, the place where a key
  may have started. -/
  keys : List (Option PossibleKey) := [none]
  /-- Whether a key may start here. -/
  allowKey : Bool := true

namespace Scanner

/-- Whether the place is inside brackets. -/
def inFlow (s : Scanner) : Bool := decide (1 < s.keys.length)

/-- Adds a token. -/
def add (s : Scanner) (t : Token) : Scanner := { s with tokens := t :: s.tokens }

/-- Puts a token after the first `position` tokens. -/
def insertAt (s : Scanner) (position : Nat) (t : Token) : Scanner :=
  let after := s.tokens.length - position
  { s with tokens := s.tokens.take after ++ t :: s.tokens.drop after }

/-- Adds a token of a single character. -/
def addChar (s : Scanner) (t : Token) : Scanner := { s.add t with cursor := s.cursor.next }

/-- Whether a key that may have started can no longer be one. -/
def isStale (s : Scanner) (key : PossibleKey) : Bool :=
  key.line ≠ s.cursor.line || decide (1024 < s.cursor.index - key.index)

/-- Forgets the places that are too far away; a required key must not be among them. -/
def dropStale (s : Scanner) : Except Fault Scanner := do
  let keys ← s.keys.mapM fun key =>
    match key with
    | none => .ok none
    | some k => if s.isStale k then (if k.required then malformed else .ok none) else .ok (some k)
  return { s with keys }

/-- The innermost place where a key may have started. -/
def currentKey? (s : Scanner) : Option PossibleKey := (s.keys.head?).join

/-- Forgets the innermost place without asking. -/
def clearKey (s : Scanner) : Scanner := { s with keys := none :: s.keys.tail }

/-- Forgets the innermost place; a required key must not be there. -/
def dropKey (s : Scanner) : Except Fault Scanner :=
  match s.currentKey? with
  | some k => if k.required then malformed else .ok s.clearKey
  | none => .ok s

/-- Remembers that a key may start here. -/
def saveKey (s : Scanner) : Except Fault Scanner := do
  if s.allowKey then
    let s ← s.dropKey
    let key : PossibleKey := {
      position := s.tokens.length
      required := !s.inFlow && s.indent = s.cursor.column
      index := s.cursor.index
      line := s.cursor.line
      column := s.cursor.column }
    return { s with keys := some key :: s.keys.tail }
  else return s

/-- Ends the collections that are indented deeper than a column. -/
def unwindFrom (column : Int) : List Int → Int → List Token → Int × List Int × List Token
  | [], indent, tokens => (indent, [], tokens)
  | up :: outer, indent, tokens =>
    if column < indent then unwindFrom column outer up (.blockEnd :: tokens)
    else (indent, up :: outer, tokens)

/-- Ends the collections that are indented deeper than a column; inside brackets indentation does
not count. -/
def unwind (s : Scanner) (column : Int) : Scanner :=
  if s.inFlow then s
  else
    let (indent, outer, tokens) := unwindFrom column s.outer s.indent s.tokens
    { s with indent, outer, tokens }

/-- Starts a collection at a column, if it is indented deeper than the innermost one. -/
def deepen (s : Scanner) (column : Nat) : Option Scanner :=
  if s.indent < column then some { s with indent := column, outer := s.indent :: s.outer }
  else none

/-- The place of the next token, after spaces, line ends and comments. A line end outside of
brackets lets a key start. Each step passes a line end. -/
def gap (inFlow : Bool) : Nat → Bool → Cursor → Bool × Cursor
  | 0, allow, c => (allow, c)
  | steps + 1, allow, c =>
    let c := c.dropSpaces.dropComment
    match c.lineBreak? with
    | none => (allow, c)
    | some (_, c) => gap inFlow steps (allow || !inFlow) c

/-- Goes to the next token. -/
def toToken (s : Scanner) : Scanner :=
  let start := if s.cursor.index = 0 && s.cursor.peek = byteOrderMark then s.cursor.next
    else s.cursor
  let (allowKey, cursor) := gap s.inFlow (start.rest.length + 1) s.allowKey start
  { s with allowKey, cursor }

/-- A character of a name. -/
def isNameChar (c : Char) : Bool := c.isAlphanum || c = '-' || c = '_'

/-- A character of a tag, escapes included. -/
def isTagChar (c : Char) : Bool :=
  c.isAlphanum || "-;/?:@&=+$,_.!~*'()[]%".toList.contains c

/-- The characters of a tag, whose escapes stand for bytes. -/
def tagChars : Nat → List Char → Option (List UInt8)
  | 0, _ => none
  | _ + 1, [] => some []
  | steps + 1, '%' :: a :: b :: rest =>
    match hexNumber? [a, b] with
    | none => none
    | some n => (tagChars steps rest).map (n.toUInt8 :: ·)
  | steps + 1, c :: rest =>
    if c = '%' then none else (tagChars steps rest).map (c.toNat.toUInt8 :: ·)

/-- The text of a tag at the place. -/
def tagText (c : Cursor) : Scanned String :=
  let (run, after) := c.span isTagChar
  if run.isEmpty then malformed
  else
    match tagChars (run.length + 1) run with
    | none => malformed
    | some bytes =>
      match String.fromUTF8? ⟨bytes.toArray⟩ with
      | none => malformed
      | some s => .ok (s, after)

/-- The handle of a tag at the place. -/
def tagHandle (c : Cursor) : Scanned String :=
  if c.peek ≠ '!' then malformed
  else
    let first := c.next
    if first.peek = ' ' then .ok ("!", first)
    else
      let (run, after) := first.span isNameChar
      if after.peek = '!' then .ok (String.ofList ('!' :: run ++ ['!']), after.next) else malformed

/-- Whether a handle with a second mark starts at the place. -/
def hasHandle (c : Cursor) : Bool :=
  (c.next.rest.takeWhile fun ch => !isSpaceOrEnd ch).contains '!'

/-- The tag at the place. -/
def scanTag (c : Cursor) : Except Fault (TagName × Cursor) := do
  let second := c.peekAt 1
  let (name, c) ←
    if second = '<' then do
      let (suffix, c) ← tagText (c.skip 2)
      if c.peek = '>' then pure ((⟨none, suffix⟩ : TagName), c.next) else malformed
    else if isBlankOrEnd second then pure (⟨none, "!"⟩, c.next)
    else do
      let (handle, c) ← if hasHandle c then tagHandle c else pure ("!", c.next)
      let (suffix, c) ← tagText c
      pure (⟨some handle, suffix⟩, c)
  if isSpaceOrEnd c.peek then return (name, c) else malformed

/-- The name of an anchor or alias at the place. -/
def scanName (c : Cursor) : Scanned String :=
  let (run, after) := c.next.span isNameChar
  let ch := after.peek
  if run.isEmpty then malformed
  else if isBlankOrEnd ch || "?:,]\x7d%@\x60".toList.contains ch then .ok (String.ofList run, after)
  else malformed

/-- The number at the place. -/
def scanNumber (c : Cursor) : Scanned Nat :=
  let (run, after) := c.span Char.isDigit
  if run.isEmpty then malformed
  else .ok (Number.ofDigitValues (run.map fun ch => ch.toNat - 48), after)

/-- The directive at the place. -/
def scanDirective (c : Cursor) : Except Fault (Directive × Cursor) := do
  let (name, c) := c.next.span isNameChar
  if name.isEmpty || !isSpaceOrEnd c.peek then malformed
  let (directive, c) ←
    if name = "YAML".toList then do
      let (major, c) ← scanNumber c.dropSpaces
      if c.peek ≠ '.' then malformed
      let (_, c) ← scanNumber c.next
      if isSpaceOrEnd c.peek then pure (Directive.version major, c) else malformed
    else if name = "TAG".toList then do
      let (handle, c) ← tagHandle c.dropSpaces
      if c.peek ≠ ' ' then malformed
      let (text, c) ← tagText c.dropSpaces
      if isSpaceOrEnd c.peek then pure (Directive.handle handle text, c) else malformed
    else pure (Directive.other, c.dropWhile fun ch => !isLineEnd ch)
  match c.ignoredLine? with
  | none => malformed
  | some c => return (directive, c)

/-- A mark between documents, or a directive, ends all collections. -/
def leaveDocument (s : Scanner) : Except Fault Scanner := do
  let s ← (s.unwind (-1)).dropKey
  return { s with allowKey := false }

/-- The start of a bracketed collection. -/
def fetchFlowStart (s : Scanner) (t : Token) : Except Fault Scanner := do
  let s ← s.saveKey
  return { s.addChar t with keys := none :: s.keys, allowKey := true }

/-- The end of a bracketed collection. -/
def fetchFlowEnd (s : Scanner) (t : Token) : Except Fault Scanner := do
  let s ← s.dropKey
  let keys := if s.keys.length ≤ 1 then s.keys else s.keys.tail
  return { s.addChar t with keys, allowKey := false }

/-- A comma in brackets. -/
def fetchFlowEntry (s : Scanner) : Except Fault Scanner := do
  let s ← s.dropKey
  return { s.addChar .flowEntry with allowKey := true }

/-- The start of an item. -/
def fetchBlockEntry (s : Scanner) : Except Fault Scanner := do
  let s ←
    if s.inFlow then pure s
    else if !s.allowKey then malformed
    else
      match s.deepen s.cursor.column with
      | none => pure s
      | some s => pure (s.add .blockListStart)
  let s ← s.dropKey
  return { s.addChar .blockEntry with allowKey := true }

/-- A collection of keys that starts at the place, unless it has started already. -/
def startMap (s : Scanner) : Except Fault Scanner :=
  if s.inFlow then .ok s
  else if !s.allowKey then malformed
  else
    match s.deepen s.cursor.column with
    | none => .ok s
    | some s => .ok (s.add .blockMapStart)

/-- A marked key. -/
def fetchKey (s : Scanner) : Except Fault Scanner := do
  let s ← (← s.startMap).dropKey
  return { s.addChar .key with allowKey := !s.inFlow }

/-- The colon of a value. -/
def fetchValue (s : Scanner) : Except Fault Scanner := do
  match s.currentKey? with
  | some key =>
    let s := s.clearKey.insertAt key.position .key
    let s :=
      if s.inFlow then s
      else
        match s.deepen key.column with
        | none => s
        | some s => s.insertAt key.position .blockMapStart
    return { s.addChar .value with allowKey := false }
  | none =>
    let s ← (← s.startMap).dropKey
    return { s.addChar .value with allowKey := !s.inFlow }

/-- A token that a key may start with. -/
def fetchLeading (s : Scanner) (scan : Cursor → Scanned Token) : Except Fault Scanner := do
  let s ← s.saveKey
  let (t, cursor) ← scan s.cursor
  return { s.add t with cursor, allowKey := false }

/-- A plain scalar. -/
def fetchPlain (s : Scanner) : Except Fault Scanner := do
  let s ← s.saveKey
  let found := plainScalar s.inFlow (s.indent + 1).toNat s.cursor
  return { s.add (.scalar (String.ofList found.chars) true) with
    cursor := found.cursor, allowKey := found.broken }

/-- A block scalar. -/
def fetchBlock (s : Scanner) (folded : Bool) : Except Fault Scanner := do
  let s ← s.dropKey
  let (chars, cursor) ← blockScalar folded (s.indent + 1).toNat s.cursor
  return { s.add (.scalar (String.ofList chars) false) with cursor, allowKey := true }

/-- A character that starts no plain scalar. -/
def isIndicator (c : Char) : Bool :=
  isBlankOrEnd c || "-?:,[]\x7b\x7d#&*!|>'\"%@\x60".toList.contains c

/-- Whether a plain scalar starts at the place. -/
def startsPlain (s : Scanner) : Bool :=
  let c := s.cursor.peek
  !isIndicator c ||
    (!isBlankOrEnd (s.cursor.peekAt 1) && (c = '-' || (!s.inFlow && (c = '?' || c = ':'))))

/-- Whether a mark that needs a blank after it outside of brackets stands at the place. -/
def isMark (s : Scanner) (c : Char) : Bool :=
  s.cursor.peek = c && (s.inFlow || isBlankOrEnd (s.cursor.peekAt 1))

/-- The next token, at whose first character the place is. -/
def fetch (s : Scanner) : Except Fault Scanner := do
  let c := s.cursor.peek
  if c = '%' && s.cursor.column = 0 then
    let s ← s.leaveDocument
    let (directive, cursor) ← scanDirective s.cursor
    return { s.add (.directive directive) with cursor }
  else if s.cursor.column = 0 && s.cursor.atSeparator then
    let s ← s.leaveDocument
    let t := if c = '-' then Token.documentStart else .documentEnd
    return { s.add t with cursor := s.cursor.skip 3 }
  else if c = '[' then s.fetchFlowStart .flowListStart
  else if c = '\x7b' then s.fetchFlowStart .flowMapStart
  else if c = ']' then s.fetchFlowEnd .flowListEnd
  else if c = '\x7d' then s.fetchFlowEnd .flowMapEnd
  else if c = ',' then s.fetchFlowEntry
  else if c = '-' && isBlankOrEnd (s.cursor.peekAt 1) then s.fetchBlockEntry
  else if s.isMark '?' then s.fetchKey
  else if s.isMark ':' then s.fetchValue
  else if c = '*' then
    s.fetchLeading fun c => (scanName c).map fun (name, c) => (.alias name, c)
  else if c = '&' then
    s.fetchLeading fun c => (scanName c).map fun (name, c) => (.anchor name, c)
  else if c = '!' then
    s.fetchLeading fun c => (scanTag c).map fun (name, c) => (.tag name, c)
  else if c = '|' && !s.inFlow then s.fetchBlock false
  else if c = '>' && !s.inFlow then s.fetchBlock true
  else if c = '\'' then
    s.fetchLeading fun c => (quotedScalar false c).map fun (cs, c) =>
      (.scalar (String.ofList cs) false, c)
  else if c = '"' then
    s.fetchLeading fun c => (quotedScalar true c).map fun (cs, c) =>
      (.scalar (String.ofList cs) false, c)
  else if s.startsPlain then s.fetchPlain
  else malformed

/-- All tokens from the place on, the last one first. Each step reads at least one character. -/
def run : Nat → Scanner → Except Fault (List Token)
  | 0, _ => malformed
  | steps + 1, s => do
    let s ← s.toToken.dropStale
    let s := s.unwind s.cursor.column
    if s.cursor.peek = endChar then
      let s ← (s.unwind (-1)).dropKey
      return s.tokens
    else run steps (← s.fetch)

end Scanner

/-- The tokens of a text. -/
def tokens (text : List Char) : Except Fault (List Token) :=
  if text.all isAllowed then
    (Scanner.run (text.length + 2) { cursor := { rest := text } }).map List.reverse
  else malformed

end Stencil.Yaml
