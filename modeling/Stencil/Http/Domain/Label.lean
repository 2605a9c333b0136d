import Stencil.Http.Domain.Table
import Stencil.Http.Punycode
import Stencil.Text.Direction
import Stencil.Text.Normal

/-!
# Labels of host names

The labels of a host name may be of any script. Such a label has to be in composed form, its
characters have to be letters, digits or marks, some of which need others around them, and the
directions of its characters have to go together. In ASCII it is written with a mark of its own.
-/

namespace Stencil.Http

/-- Why a text is no host name. -/
inductive DomainFault where
  /-- The name or one of its labels has not the right form. -/
  | malformed
  /-- A character stands in no label. -/
  | codePoint
  /-- A character needs others around it. -/
  | context
  /-- The directions of the characters do not go together. -/
  | direction
  deriving DecidableEq, Repr

namespace Domain

/-- The longest text that is looked at. -/
def maxInput : Nat := 1024

/-- The longest name; one that ends with a dot may be longer by one. -/
def maxName : Nat := 253

/-- The longest label in ASCII. -/
def maxLabel : Nat := 63

/-- The mark of a label of another script. -/
def mark : List Char := ['x', 'n', '-', '-']

/-- Whether the hyphens of a label are where they may be. -/
def hasPlainHyphens (label : List Char) : Bool :=
  (label.drop 2).take 2 ≠ ['-', '-'] && label.head? ≠ some '-' && label.getLast? ≠ some '-'

/-- The class of the mark that kills a vowel. -/
def killerClass : Nat := 9

/-- Whether the last letter of a text, if not looked through, is one of some. -/
def joins (bounds : List Nat) (cs : List Char) : Bool :=
  match cs.dropWhile fun c => Text.insideBounds transparentBounds c.toNat with
  | [] => false
  | c :: _ => Text.insideBounds bounds c.toNat || Text.insideBounds joinsBothBounds c.toNat

/-- Whether a joiner or a separator of letters may stand between two texts, the first of which is in
reverse. -/
def suitsJoiner (isJoiner : Bool) (before after : List Char) : Bool :=
  before.head?.any (fun c => Text.markClass c = killerClass) ||
    (!isJoiner && joins joinsNextBounds before && joins joinsBackBounds after)

/-- Whether a character is one of the Arabic digits. -/
def isArabicDigit (c : Char) : Bool := 0x660 ≤ c.toNat && c.toNat ≤ 0x669

/-- Whether a character is one of the eastern Arabic digits. -/
def isEasternDigit (c : Char) : Bool := 0x6F0 ≤ c.toNat && c.toNat ≤ 0x6F9

/-- Whether a character may stand between two texts, the first of which is in reverse; none if the
texts do not matter. -/
def suits? (c : Char) (before after : List Char) : Option Bool :=
  let inScript (bounds : List Nat) (d : Option Char) : Bool :=
    d.any fun d => Text.insideBounds bounds d.toNat
  if c = '\u200c' then some (suitsJoiner false before after)
  else if c = '\u200d' then some (suitsJoiner true before after)
  else if c = '·' then some (before.head? = some 'l' && after.head? = some 'l')
  else if c = '\u0375' then some (inScript greekBounds after.head?)
  else if c = '\u05f3' || c = '\u05f4' then some (inScript hebrewBounds before.head?)
  else if c = '\u30fb' then
    some ((before ++ after).any fun d => d ≠ '\u30fb' && inScript japaneseBounds (some d))
  else if isArabicDigit c then some (!(before ++ after).any isEasternDigit)
  else if isEasternDigit c then some (!(before ++ after).any isArabicDigit)
  else none

/-- Checks the characters of a label after those of `before`, which is in reverse. -/
def checkChars (before : List Char) : List Char → Except DomainFault Unit
  | [] => .ok ()
  | c :: rest =>
    if Text.insideBounds permittedBounds c.toNat then checkChars (c :: before) rest
    else
      match suits? c before rest with
      | some true => checkChars (c :: before) rest
      | some false => .error .context
      | none => .error .codePoint

/-- Whether a direction may occur in a label of letters that are written from right to left. -/
def isRightPart (d : Text.Direction) : Bool := d ≠ .left && d ≠ .layout

/-- Whether a direction may occur in a label of letters that are written from left to right. -/
def isLeftPart (d : Text.Direction) : Bool :=
  d ≠ .right && d ≠ .arabic && d ≠ .arabicNumber && d ≠ .layout

/-- Whether the directions of a label go together. They do unless some letter is written from right
to left. -/
def areDirections (ds : List Text.Direction) : Bool :=
  let last := (ds.reverse.dropWhile (· = .mark)).head?
  if !(ds.any fun d => d = .right || d = .arabic || d = .arabicNumber) then true
  else if ds.head? = some .right || ds.head? = some .arabic then
    ds.all isRightPart && !(ds.contains .number && ds.contains .arabicNumber) &&
      last.any fun d => d = .right || d = .arabic || d = .number || d = .arabicNumber
  else ds.head? = some .left && ds.all isLeftPart &&
    last.any fun d => d = .left || d = .number

/-- Checks a label. -/
def check (label : List Char) : Except DomainFault Unit := do
  if label.isEmpty || maxName + 1 < label.length then throw .malformed
  if Text.composed label ≠ label || !hasPlainHyphens label then throw .malformed
  if label.head?.any Text.isMark then throw .malformed
  checkChars [] label
  match label.mapM Text.Direction.of? with
  | none => throw .direction
  | some ds => if areDirections ds then return () else throw .direction

/-- The label that an ASCII label stands for. -/
def labelOf (ascii : List Char) : Except DomainFault (List Char) := do
  let ascii := ascii.map Char.toLower
  if mark.isPrefixOf ascii then
    let coded := ascii.drop mark.length
    if coded.isEmpty || coded.getLast? = some '-' then throw .malformed
    match Punycode.decode? coded with
    | none => throw .malformed
    | some label =>
      check label
      return label
  else
    check ascii
    return ascii

/-- A label in ASCII. -/
def asciiLabel (label : List Char) : Except DomainFault (List Char) := do
  if maxInput < label.length then throw .malformed
  if Text.isAscii label then
    let _ ← labelOf label
    if maxLabel < label.length then throw .malformed
    return label
  else
    check label
    let ascii := mark ++ Punycode.encode label
    if maxLabel < ascii.length then throw .malformed
    return ascii

/-- A character that separates labels. -/
def isDot (c : Char) : Bool := c = '.' || c = '\u3002' || c = '\uFF0E' || c = '\uFF61'

/-- The labels of a name, and whether a dot follows the last one. -/
def labels (name : List Char) : List (List Char) × Bool :=
  let parts := name.splitOnP isDot
  if parts.getLast? = some [] then (parts.dropLast, true) else (parts, false)

/-- A name with each of its labels changed. -/
def mapLabels (change : List Char → Except DomainFault (List Char)) (name : List Char) :
    Except DomainFault (List Char) := do
  if name.isEmpty || maxName + 1 < name.length then throw .malformed
  let (parts, hasEnd) := labels name
  let changed ← parts.mapM change
  return List.intercalate ['.'] changed ++ (if hasEnd then ['.'] else [])

/-- A name in ASCII. -/
def encode (name : List Char) : Except DomainFault (List Char) := do
  let ascii ← mapLabels asciiLabel name
  if (if ascii.getLast? = some '.' then maxName + 1 else maxName) < ascii.length then
    throw .malformed
  return ascii

/-- The name that an ASCII name stands for. -/
def decode (ascii : List Char) : Except DomainFault (List Char) := mapLabels labelOf ascii

end Domain

end Stencil.Http
