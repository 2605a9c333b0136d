import Stencil.Failure
import Stencil.Text.Blank

/-!
# Schemas

A schema is written as plain data: a text is an expression, an object maps names to schemas, and a
list holds objects that name the path they iterate over under a reserved key. Compiling turns the
data into nodes in which the reserved key is gone. The members of objects are named by the plain
texts of their keys.
-/

namespace Stencil

/-- The plain text of a key, unless it is an integer too long to be written. -/
def Key.plainText (key : Key) : Outcome String :=
  if Value.keyIsLong key then Outcome.defect .value else Except.ok key.plain

/-- A text is its own plain text. -/
theorem Key.plainText_text (s : String) : (Key.text s).plainText = Except.ok s := rfl

/-- A compiled schema. -/
inductive Schema where
  /-- An expression. -/
  | scalar (expression : String)
  /-- An object with its members in order. -/
  | object (fields : List (String × Schema))
  /-- One result for each value that the path selects. -/
  | arrayOf (path : String) (element : Schema)
  /-- The results of all parts, each a path and an element, in order. -/
  | list (parts : List (String × Schema))
  /-- Data of a kind that is no schema, which fails as soon as it is evaluated. -/
  | unsupported (kind : String)
  deriving Repr, Inhabited

namespace Schema

/-- The reserved key of a list's elements. -/
def pathKey : String := "__array_path"

/-- Whether a member of an object is named by the reserved key. -/
def isPathKey (key : Key) : Bool := key.same (.text pathKey)

/-- The path that an element of a list iterates over: a text that is not blank. -/
def elementPath? (members : List (Key × Value)) : Option String :=
  match Fields.find? members pathKey with
  | some (.text path) => if (Text.trim path.toList).isEmpty then none else some path
  | _ => none

mutual

/-- The schema that data describes. -/
def compile : Value → Outcome Schema
  | .text s => Except.ok (.scalar s)
  | .object members => (compileFields members).map .object
  | .list elements => (compileParts elements).map .list
  | v => Outcome.schema (.unsupportedNode v.kind)
  termination_by structural v => v

/-- The fields of an object, without the one of the reserved key. -/
def compileFields : List (Key × Value) → Outcome (List (String × Schema))
  | [] => Except.ok []
  | (key, v) :: rest =>
    if isPathKey key then compileFields rest
    else do
      -- the name comes first: a key that has none hides what is wrong with its schema
      let name ← key.plainText
      let child ← compile v
      return (name, child) :: (← compileFields rest)
  termination_by structural members => members

/-- The parts of a list. -/
def compileParts : List Value → Outcome (List (String × Schema))
  | [] => Except.ok []
  | .object members :: rest =>
    match elementPath? members with
    | none => Outcome.schema .missingPath
    | some path => do
      let fields ← compileFields members
      return (path, .object fields) :: (← compileParts rest)
  | element :: _ => Outcome.schema (.elementKind element.kind)
  termination_by structural elements => elements

end

/-- A text is an expression. -/
theorem compile_text (s : String) : compile (.text s) = Except.ok (.scalar s) := rfl

end Schema

end Stencil
