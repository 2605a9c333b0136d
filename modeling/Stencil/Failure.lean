import Stencil.Decimal.Arithmetic
import Stencil.Error

/-!
# Failures

How an operation may end without a result. Errors are meant for the caller; a fault in JSON text
or a missing file is reported as such; a defect is the breakdown of a basic operation on values,
which no message describes.
-/

namespace Stencil

/-- The breakdown of a basic operation. -/
inductive Defect where
  /-- A decimal operation is not defined for its operands. -/
  | invalidOperation
  /-- A decimal result is too large. -/
  | decimalOverflow
  /-- An infinite binary number has no integer. -/
  | overflow
  /-- A text or number cannot be converted. -/
  | value
  /-- A value has a kind that the operation does not know. -/
  | type
  /-- A value lacks a method of texts. -/
  | attribute
  /-- A key of no known kind. -/
  | key
  /-- A text is too short. -/
  | index
  /-- A file's name is the name of a directory. -/
  | isDirectory
  /-- Bytes are no text in their encoding. -/
  | decode
  /-- A text has no bytes in the encoding of headers. -/
  | encode
  /-- An address cannot be read. -/
  | invalidUrl
  /-- A name of another script is no host name. -/
  | domainForm
  /-- A host name holds a character that stands in none. -/
  | domainCodePoint
  /-- A host name holds a character that needs others around it. -/
  | domainContext
  /-- The directions of the characters of a host name do not go together. -/
  | domainDirection
  /-- A text cannot be read or written in an encoding at all. -/
  | encoding
  /-- A way to read bytes is not meant for texts. -/
  | assertion
  /-- A tag closes what is not open. -/
  | markup
  /-- A value holds itself. -/
  | endless
  /-- An operation that can be written but not run. -/
  | unsupported
  deriving DecidableEq, Repr

/-- Why an operation has no result. -/
inductive Failure where
  /-- An error with a message for the caller. -/
  | error (e : Error)
  /-- A text is not JSON. -/
  | json (fault : Json.Fault)
  /-- A file does not exist. -/
  | missingFile (path : String)
  /-- A basic operation broke down. -/
  | defect (d : Defect)
  deriving Repr

/-- A result or the failure to get one. -/
abbrev Outcome (α : Type) := Except Failure α

namespace Outcome

/-- Failing with an error. -/
def fail {α : Type} (e : Error) : Outcome α := Except.error (Failure.error e)

/-- Failing by a defect. -/
def defect {α : Type} (d : Defect) : Outcome α := Except.error (Failure.defect d)

/-- Failing with a problem of a schema. -/
def schema {α : Type} (problem : SchemaProblem) : Outcome α := fail (.schema problem)

end Outcome

/-- A trapped decimal operation is a defect. -/
def Defect.ofTrap : Decimal.Trap → Defect
  | .invalidOperation => .invalidOperation
  | .overflow => .decimalOverflow

/-- The outcome of a decimal operation. -/
def Outcome.ofTrap {α : Type} : Except Decimal.Trap α → Outcome α
  | .ok a => Except.ok a
  | .error trap => defect (.ofTrap trap)

/-- What a missing file is reported as. -/
def Failure.missingFileMessage (path : String) : String := "File not found at:\n  " ++ path

end Stencil
