import Stencil.Console.Look
import Stencil.Console.Parameter
import Stencil.Console.Pictogram
import Stencil.Console.Width

/-!
# Marked-up lines

A line for the console may hold tags in square brackets, which set the look of what follows until
they are closed, and names of pictograms. A backslash before a tag makes it plain text. Rendering
drops the tags, for a console without any look; closing what is not open is refused.
-/

namespace Stencil.Console

/-- A character that a tag starts with. -/
def isTagStart (c : Char) : Bool := ('a' ≤ c && c ≤ 'z') || c = '#' || c = '/' || c = '@'

/-- The tag at the start of a text, without its brackets, and what follows it. -/
def tagAt? : List Char → Option (List Char × List Char)
  | '[' :: c :: rest =>
    if isTagStart c then
      let inside := rest.takeWhile fun d => d ≠ '[' && d ≠ ']'
      match rest.drop inside.length with
      | ']' :: after => some (c :: inside, after)
      | _ => none
    else none
  | _ => none

/-- A tag takes at least three characters. -/
theorem length_of_tagAt? {cs tag after : List Char} (h : tagAt? cs = some (tag, after)) :
    after.length < cs.length := by
  unfold tagAt? at h
  split at h
  · next c rest =>
    split at h
    · dsimp only at h
      split at h
      · next heq =>
        simp only [Option.some.injEq, Prod.mk.injEq] at h
        have shorter := congrArg List.length heq
        simp only [List.length_drop, List.length_cons] at shorter
        rw [← h.2]
        simp only [List.length_cons]
        omega
      · simp at h
    · simp at h
  · simp at h

/-- A piece of a marked-up text. -/
inductive Piece where
  /-- Plain text. -/
  | plain (cs : List Char)
  /-- A tag. -/
  | tag (name : List Char)
  deriving DecidableEq, Repr

/-- How many backslashes a text starts with. -/
def backslashes (cs : List Char) : Nat := (cs.takeWhile (· = '\\')).length

/-- The pieces of a text. Pairs of backslashes before a tag stand for one each, and an odd one makes
the tag plain text. `plain` is the plain text so far, in reverse. Each step reads a character. -/
def pieces : Nat → List Char → List Char → List Piece
  | 0, plain, cs => [.plain (plain.reverse ++ cs)]
  | _ + 1, plain, [] => [.plain plain.reverse]
  | steps + 1, plain, c :: rest =>
    let count := backslashes (c :: rest)
    match tagAt? ((c :: rest).drop count) with
    | some (tag, after) =>
      let lead := [.plain plain.reverse, .plain (List.replicate (count / 2) '\\')]
      let piece := if count % 2 = 1 then .plain ('[' :: tag ++ [']']) else .tag tag
      lead ++ piece :: pieces steps [] after
    | none =>
      let run := (c :: rest).take (count + 1)
      pieces steps (run.reverse ++ plain) ((c :: rest).drop (count + 1))

/-- Plain text without the backslashes that stand before opening brackets. -/
def withoutEscapes : List Char → List Char
  | '\\' :: '[' :: rest => '[' :: withoutEscapes rest
  | c :: rest => c :: withoutEscapes rest
  | [] => []

/-- A tag that has been opened. -/
structure OpenTag where
  /-- The plain form of its name. -/
  name : List Char
  /-- Its parameters, which follow an equals sign. -/
  parameters : Option (List Char)
  deriving DecidableEq, Repr

/-- The name of a tag, which ends before an equals sign. -/
def tagName (tag : List Char) : List Char := tag.takeWhile (· ≠ '=')

/-- The parameters of a tag, if there is an equals sign. -/
def tagParameters? (tag : List Char) : Option (List Char) :=
  match tag.dropWhile (· ≠ '=') with
  | [] => none
  | _ :: parameters => some parameters

/-- The first open tag with a name, and the others. -/
def takeNamed? (name : List Char) : List OpenTag → Option (OpenTag × List OpenTag)
  | [] => none
  | tag :: rest =>
    if tag.name = name then some (tag, rest)
    else (takeNamed? name rest).map fun (found, others) => (found, tag :: others)

/-- The tag that a closing one closes, and those that stay open. The innermost comes first; without
a name that one is closed. -/
def close (name : List Char) (opened : List OpenTag) : Outcome (OpenTag × List OpenTag) := do
  let found ← match name, opened with
    | [], [] => pure none
    | [], tag :: rest => pure (some (tag, rest))
    | _, _ => do
      let name ← Look.normalize name
      pure (takeNamed? name opened)
  match found with
  | some (tag, rest) =>
    if tag.name.head? = some '@' && !tag.parameters.all areParameters then
      Outcome.defect .markup
    else return (tag, rest)
  | none => Outcome.defect .markup

/-- The text of pieces while some tags are open. -/
def renderPieces : List OpenTag → List Piece → Outcome (List Char)
  | _, [] => Except.ok []
  | opened, .plain cs :: rest =>
    (renderPieces opened rest).map (withPictograms (withoutEscapes cs) ++ ·)
  | opened, .tag tag :: rest =>
    match tagName tag with
    | '/' :: name => do renderPieces (← close (Text.trim name) opened).2 rest
    | name => do renderPieces (⟨← Look.normalize name, tagParameters? tag⟩ :: opened) rest

/-- Whether the look of a piece can be told. That of a tag with parameters is described by its name
and its parameters. -/
def checkLook : Piece → Outcome Unit
  | .plain _ => Except.ok ()
  | .tag tag =>
    match tagParameters? tag with
    | none => Except.ok ()
    | some parameters => do
      let _ ← Look.normalize (tagName tag ++ ' ' :: parameters)
      return ()

/-- A control character that a console does not show. -/
def isHidden (c : Char) : Bool :=
  c.toNat = 7 || c.toNat = 8 || c.toNat = 11 || c.toNat = 12 || c.toNat = 13

/-- A line with each tab filled up with spaces to the next multiple of eight places, at least one.
`start` is the text since the tab before, in reverse, and `column` the places before it. -/
def expandTabs (column : Nat) (start : List Char) : List Char → List Char
  | [] => []
  | c :: rest =>
    if c = '\n' then c :: expandTabs 0 [] rest
    else if c = '\t' then
      let reached := column + width (start.reverse ++ [' '])
      let filled := (reached + 7) / 8 * 8
      List.replicate (1 + (filled - reached)) ' ' ++ expandTabs filled [] rest
    else c :: expandTabs column (c :: start) rest

/-- The line that a marked-up text shows. -/
def line (markup : List Char) : Outcome String := do
  let found := pieces (markup.length + 1) [] markup
  let shown ← renderPieces [] found
  found.forM checkLook
  return String.ofList (expandTabs 0 [] (shown.filter fun c => !isHidden c) ++ ['\n'])

/-- A text in which tags are plain. `steps` bounds the characters read. -/
def escapeTags : Nat → List Char → List Char
  | 0, cs => cs
  | _ + 1, [] => []
  | steps + 1, c :: rest =>
    let count := backslashes (c :: rest)
    match tagAt? ((c :: rest).drop count) with
    | some (tag, after) =>
      List.replicate (2 * count + 1) '\\' ++ '[' :: tag ++ ']' :: escapeTags steps after
    | none => (c :: rest).take (count + 1) ++ escapeTags steps ((c :: rest).drop (count + 1))

/-- A text as it stands in markup: tags are made plain, and so is a single backslash at the end. -/
def escape (cs : List Char) : List Char :=
  let escaped := escapeTags (cs.length + 1) cs
  match escaped.reverse with
  | ['\\'] => escaped ++ ['\\']
  | '\\' :: before :: _ => if before = '\\' then escaped else escaped ++ ['\\']
  | _ => escaped

end Stencil.Console
