import Stencil.Batch.Message
import Stencil.Binary64.Text
import Stencil.Console.Markup
import Stencil.Json.Pretty
import Stencil.Json.Reader

/-!
# Reports of a batch

What a console shows while a batch runs: a line for each request and each response, then the final
response with its headers and its body. Numbers of the body are shown as binary fractions.
-/

namespace Stencil.Console

/-- The sign of a request that has been sent. -/
def runningIcon : String := "[cyan][bold]•[/bold][/cyan]"

/-- The sign of a response. -/
def successIcon : String := "[green][bold]✓[/bold][/green]"

/-- The sign of a response that tells of a failure. -/
def failureIcon : String := "[red][bold]✗[/bold][/red]"

/-- The sign of a status; from 400 on a status tells of a failure. -/
def statusIcon (status : Option Int) : String :=
  match status with
  | some n => if 400 ≤ n then failureIcon else successIcon
  | none => successIcon

/-- The minutes of a number of seconds, and the whole seconds of the rest. -/
def minutesOf (x : Binary64) : Outcome (Int × Int) :=
  match x.fits? 60 with
  | none => Outcome.defect .value
  | some (minutes, rest, denominator) => Except.ok (minutes, Int.fdiv rest denominator)

/-- The text of a number of seconds: thousandths below a second, tenths below a minute, and else
minutes and seconds. -/
def duration (x : Binary64) : Outcome (List Char) :=
  if x.less (.ofInt 1) then Except.ok ((x.mulNat 1000).fixed 0 ++ ['m', 's'])
  else if x.less (.ofInt 60) then Except.ok (x.fixed 1 ++ ['s'])
  else
    (minutesOf x).map fun (minutes, seconds) =>
      Number.intText minutes ++ 'm' :: ' ' :: Number.padded 2 seconds.toNat ++ ['s']

/-- The mark of the step with an index, counted from one. -/
def stepMark (index total : Nat) : List Char :=
  "[dim]\\[".toList ++ Number.digits (index + 1) ++ '/' :: Number.digits total ++
    "][/dim] ".toList

/-- An address as it stands in markup. There must be one. -/
def urlMarkup (url : Option String) : Outcome (List Char) :=
  match url with
  | some s => Except.ok (escape s.toList)
  | none => Outcome.defect .type

/-- The line of a request that is about to be sent. -/
def requestLine (index total : Nat) (request : Request) : Outcome String := do
  let url ← urlMarkup request.url
  line (runningIcon.toList ++ ' ' :: stepMark index total ++ "[bold]".toList ++
    request.method.toList ++ "[/bold] ".toList ++ url)

/-- The line of a response to a request; without a request its method and address are left empty. -/
def responseLine (current : Option Request) (index total : Nat) (response : Response)
    (seconds : Binary64) : Outcome String := do
  let method := (current.map Request.method).getD ""
  let url ← match current with
    | none => pure []
    | some request => urlMarkup request.url
  let took ← duration seconds
  let status := match response.status with
    | none => "None".toList
    | some n => Number.intText n
  line ((statusIcon response.status).toList ++ ' ' :: stepMark index total ++ "[bold]".toList ++
    method.toList ++ "[/bold] ".toList ++ url ++ " [dim]→ ".toList ++ status ++ " (".toList ++
    took ++ ")[/dim]".toList)

/-- A value for the eye. Its JSON text is read again with binary fractions. -/
def jsonBlock (v : Value) : Outcome String := do
  let text ← Json.write .spaced v
  return (← Json.pretty (← Json.readChars .binary text.toList)) ++ "\n"

/-- The line of a header. -/
def headerLine (name : Key) (texts : List String) : Outcome String :=
  match name with
  | .text name => line ("[bold]".toList ++ escape name.toList ++ ":[/bold] ".toList ++
      escape (", ".intercalate texts).toList)
  | _ => Outcome.defect .type

/-- What is shown of the final response, part by part. -/
def responseParts (response : Response) : List (Outcome String) :=
  let status := match response.status with
    | none => []
    | some n => [line ("[bold]Status:[/bold] ".toList ++ Number.intText n)]
  let headers := (response.headers.getD []).map fun (name, texts) => headerLine name texts
  Except.ok "\n" :: status ++ headers ++ [jsonBlock response.body]

/-- The line of an error. -/
def errorLine (message : String) : Outcome String :=
  line ("[bold red]Error: ".toList ++ escape message.toList ++ "[/bold red]".toList)

end Stencil.Console
