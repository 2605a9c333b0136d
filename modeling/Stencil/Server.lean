import Stencil.Batch.Run
import Stencil.Http.Line
import Stencil.Http.MediaType
import Stencil.Http.Target
import Stencil.Json.Printer
import Stencil.Json.Reader

/-!
# Serving batches

A server answers requests that bring a batch template: it runs the batch with the request itself as
the opening one, and answers with the batch's response. A problem of the request or the template is
answered with status 400, and a step that got no response with status 502.
-/

namespace Stencil

/-- A request that a server receives. -/
structure Incoming where
  /-- The method. -/
  method : String
  /-- The target. -/
  target : String
  /-- The header lines. -/
  lines : Http.Lines
  /-- The content. -/
  content : List UInt8

/-- What a server sends back. -/
structure Reply where
  /-- The status. -/
  status : Int
  /-- The header lines. -/
  lines : Http.Lines
  /-- The content. -/
  content : String
  deriving DecidableEq, Repr

/-- How a server answers. -/
inductive ServerAnswer where
  /-- Nothing handles the request; only a status is sent. -/
  | refusal (status : Int)
  /-- The reply of the handler. -/
  | reply (r : Reply)
  deriving DecidableEq, Repr

/-- What handles a request. -/
inductive Route where
  /-- A batch is run. -/
  | batch
  /-- The server says that it is there. -/
  | health
  /-- Nothing has the path. -/
  | unknownPath
  /-- The path does not take the method. -/
  | otherMethod
  deriving DecidableEq, Repr

namespace Incoming

/-- What handles a method and a path. -/
def route (method : String) (path : List Char) : Route :=
  if path = "/batch".toList then (if method = "POST" then .batch else .otherMethod)
  else if path = "/health".toList then
    if method = "GET" || method = "HEAD" then .health else .otherMethod
  else .unknownPath

/-- The breakdown of reading a target. -/
def ofTargetFault {α : Type} (found : Except Http.TargetFault α) : Outcome α :=
  found.mapError fun
    | .malformed => .defect .value
    | .name => .defect .encoding

/-- The target of a request, the host of which has to have a meaning. -/
def targetOf (r : Incoming) : Outcome Http.Target := do
  let target ← ofTargetFault (Http.Target.ofText r.target.toList)
  if target.hasMeaning then return target else Outcome.defect .encoding

/-- The value of the first line of a name. -/
def line? (r : Incoming) (name : String) : Option String :=
  (r.lines.find? fun line => Http.Lines.sameName line.1 name).map Prod.snd

/-- The full address of a request. -/
def url (r : Incoming) (target : Http.Target) : Outcome String :=
  (ofTargetFault (target.address ((r.line? "Host").getD "").toList)).map String.ofList

/-- The values of each header name as it is written, in the order in which the names first come. -/
def headers (r : Incoming) : Headers :=
  r.lines.foldl (fun headers line =>
    let texts := (Fields.find? headers line.1).getD []
    Fields.insert headers (.text line.1) (texts ++ [line.2])) []

/-- The name of the charset of the content. -/
def charsetName (r : Incoming) : Outcome (List Char) := do
  let told ← match r.line? "Content-Type" with
    | none => pure none
    | some contentType => Http.MediaType.charset? contentType.toList
  let name := told.getD []
  return if name.isEmpty then "utf-8".toList else name

/-- The text of the content, if its charset is known. -/
def text? (r : Incoming) : Outcome (Option (List Char)) := do
  let name ← r.charsetName
  if name.contains '\x00' then Outcome.defect .value
  else if r.content.isEmpty then return some []
  else
    match Charset.named? name with
    | some (.charset c) =>
      match c.readStrictly r.content with
      | .ok text => return some text
      | .error .undecodable => Outcome.defect .decode
      | .error .refused => Outcome.defect .encoding
    | _ => return none

/-- The request that starts the batch, with the data of its content. -/
def opening (r : Incoming) (target : Http.Target) (body : Value) : Outcome Request := do
  return { method := r.method, url := some (← r.url target), headers := r.headers, body }

end Incoming

namespace Reply

/-- The line that tells the content type of JSON. -/
def jsonLine : String × String := ("Content-Type", "application/json; charset=utf-8")

/-- A reply that tells of an error. -/
def error (status : Int) (message : String) : Outcome Reply := do
  let content ← Json.write .spaced (.object [(.text "error", .text message)])
  return { status, lines := [jsonLine], content }

/-- The reply to a request for a sign of life. -/
def health : Reply :=
  { status := 200, lines := [("Content-Type", "text/plain; charset=utf-8")], content := "ok" }

/-- The lines with those of a header added. A content type takes the place of the one that is there,
and only its first text counts. -/
def withHeader (lines : Http.Lines) (name : String) (texts : List String) : Http.Lines :=
  if Http.Lines.sameName name "content-type" then
    match texts with
    | [] => lines
    | first :: _ => Http.Lines.put lines "Content-Type" first
  else lines ++ texts.map fun text => (name, text)

/-- The lines with those of all headers added. -/
def withHeaders : Http.Lines → Headers → Outcome Http.Lines
  | lines, [] => Except.ok lines
  | lines, (.text name, texts) :: rest => withHeaders (withHeader lines name texts) rest
  | _, _ :: _ => Outcome.defect .attribute

/-- The reply that a batch's response is sent as. A status that is missing or zero counts as 200. -/
def ofResponse (response : Response) : Outcome Reply := do
  let content ← Json.write .spaced response.body
  let status := match response.status with
    | some n => if n = 0 then 200 else n
    | none => 200
  return { status, lines := ← withHeaders [jsonLine] (response.headers.getD []), content }

end Reply

namespace Incoming

/-- The reply that a failure of the batch is sent as, if there is one. -/
def replyOf : Failure → Outcome Reply
  | .error (.dispatch method url reason) =>
    Reply.error 502 (Error.dispatch method url reason).message
  | .error e => Reply.error 400 e.message
  | failure => Except.error failure

/-- Runs the batch of a template. -/
def runTemplate {σ : Type} (b : Builder) (gateway : Gateway σ) (r : Incoming)
    (target : Http.Target) (body : Value) (template : BatchTemplate) : Action σ Reply := do
  let opening ← Action.lift (r.opening target body)
  let result ← tryCatch ((b.runBatch gateway opening template).map Except.ok)
    fun failure => pure (Except.error failure)
  match result with
  | .ok response => Action.lift (Reply.ofResponse response)
  | .error failure => Action.lift (replyOf failure)

/-- Runs the batch that a request brings. -/
def runBatch {σ : Type} (b : Builder) (gateway : Gateway σ) (r : Incoming)
    (target : Http.Target) (text : List Char) : Action σ Reply :=
  match Json.readChars .exact text with
  | .error (.json fault) => Action.lift (Reply.error 400 ("Invalid JSON body: " ++ fault.message))
  | .error failure => throw failure
  | .ok body =>
    match body with
    | .object members =>
      match Fields.find? members "template" with
      | none => Action.lift (Reply.error 400 "Request body must contain a 'template' object")
      | some template =>
        match BatchTemplate.ofValue (some "template") template with
        | .ok template => runTemplate b gateway r target body template
        | .error (.error e) => Action.lift (Reply.error 400 e.message)
        | .error failure => throw failure
    | _ => Action.lift (Reply.error 400 "Request body must contain a 'template' object")

/-- Answers a request. -/
def answer {σ : Type} (b : Builder) (gateway : Gateway σ) (r : Incoming) :
    Action σ ServerAnswer := do
  let target ← Action.lift r.targetOf
  match route r.method target.path with
  | .unknownPath => pure (.refusal 404)
  | .otherMethod => pure (.refusal 405)
  | .health => pure (.reply Reply.health)
  | .batch =>
    match ← Action.lift r.text? with
    | none => pure (.refusal 415)
    | some text => return .reply (← r.runBatch b gateway target text)

end Incoming

end Stencil
