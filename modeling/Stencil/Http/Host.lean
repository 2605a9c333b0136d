import Stencil.Http.Address
import Stencil.Http.Domain.Label
import Stencil.Http.Percent
import Stencil.Number.Written
import Stencil.Text.Case

/-!
# Hosts of addresses

A host is a number address of either family or a name. A text of four runs of digits must be a
correct number address; so must a text in brackets. Names are written in lower case, those of other
scripts in ASCII.
-/

namespace Stencil.Http

/-- Why a text is no address. -/
inductive UrlFault where
  /-- The text is too long. -/
  | tooLong
  /-- The text holds a control character at a position. -/
  | control (c : Char) (position : Nat)
  /-- Four runs of digits are no number address. -/
  | shortAddress (host : String)
  /-- A text in brackets is no number address. -/
  | longAddress (host : String)
  /-- A name cannot be written in ASCII. -/
  | name (host : String)
  /-- The port is no number. -/
  | port (text : String)
  /-- A path after a host does not start with a slash. -/
  | absolutePath
  /-- A path without a host starts with two slashes. -/
  | doubleSlash
  /-- A path without a host starts with a colon. -/
  | leadingColon
  deriving DecidableEq, Repr

/-- The wording of a fault. -/
def UrlFault.message : UrlFault → String
  | .tooLong => "URL too long"
  | .control c position =>
    "Invalid non-printable ASCII character in URL, " ++ Text.quote (String.ofList [c]) ++
      " at position " ++ String.ofList (Number.digits position) ++ "."
  | .shortAddress host => "Invalid IPv4 address: " ++ Text.quote host
  | .longAddress host => "Invalid IPv6 address: " ++ Text.quote host
  | .name host => "Invalid IDNA hostname: " ++ Text.quote host
  | .port text => "Invalid port: " ++ Text.quote text
  | .absolutePath => "For absolute URLs, path must be empty or begin with '/'"
  | .doubleSlash => "Relative URLs cannot have a path starting with '//'"
  | .leadingColon => "Relative URLs cannot have a path starting with ':'"

namespace Host

/-- Whether a text is four runs of digits with dots between them. -/
def isRuns (cs : List Char) : Bool :=
  let parts := cs.splitOn '.'
  parts.length = 4 && parts.all fun part => !part.isEmpty && part.all Char.isDigit

/-- A character that may stand in a name besides letters and digits. -/
def isNameMark (c : Char) : Bool := "-._~!$&'()*+,;=\"\x60\x7b\x7d%|\\".toList.contains c

/-- A character that stands in a name as it is. -/
def isSafe (c : Char) : Bool := c.isAlphanum || isNameMark c

/-- A host as it stands in an address, without brackets. -/
def normalize (cs : List Char) : Except UrlFault (List Char) :=
  if cs.isEmpty then .ok []
  else if isRuns cs then
    if (Address.short? cs).isSome then .ok cs else .error (.shortAddress (String.ofList cs))
  else if cs.head? = some '[' && cs.getLast? = some ']' && decide (2 ≤ cs.length) then
    let inside := (cs.drop 1).dropLast
    if Address.isLong inside then .ok inside else .error (.longAddress (String.ofList cs))
  else if Text.isAscii cs then .ok (Percent.encode isSafe (cs.map Char.toLower))
  else
    match Domain.encode (Text.lowerChars cs) with
    | .ok name => .ok name
    | .error _ => .error (.name (String.ofList cs))

/-- A host as it is meant: a name of another script is read from its ASCII form. -/
def meaning (host : List Char) : Except DomainFault (List Char) :=
  if Domain.mark.isPrefixOf host then Domain.decode host else .ok host

end Host

end Stencil.Http
