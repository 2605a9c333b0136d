import Stencil.Cast

/-!
# Requests and responses

The messages that a batch exchanges. A header has a list of texts; a request's address is absent
only if its template selected nothing. Messages turn into values so that later steps can query them.
-/

namespace Stencil

/-- Header names with the texts of each, in order. -/
abbrev Headers := Fields (List String)

namespace Headers

/-- The headers as a value. -/
def toValue (headers : Headers) : Value :=
  .object (headers.map fun (name, texts) => (name, .list (texts.map .text)))

/-- The plain text of a value, unless it holds an integer too long to be written. -/
def plainText (v : Value) : Outcome String :=
  if v.holdsLong then Outcome.defect .value else Except.ok v.plain

/-- The header texts of a value: those of its items if it is a list. -/
def textsOf (text : Value → Outcome String) : Value → Outcome (List String)
  | .list items => items.mapM text
  | v => (text v).map fun s => [s]

/-- The headers of an object's members. -/
def ofMembers (text : Value → Outcome String) (members : List (Key × Value)) : Outcome Headers :=
  members.mapM fun (name, v) => return (name, ← textsOf text v)

/-- The headers in plain data, as an incoming request or the settings give them. Values that count
as absent give none. -/
def normalize (v : Value) : Outcome Headers :=
  match v with
  | .object members => ofMembers plainText members
  | _ => if v.isAbsent then Except.ok [] else Outcome.defect .attribute

/-- The headers that a schema built. -/
def ofBuilt : Value → Outcome Headers
  | .object members => ofMembers Value.toText members
  | v => Outcome.schema (.headersKind v.kind)

end Headers

/-- A request. -/
structure Request where
  /-- The method. -/
  method : String := "GET"
  /-- The address. -/
  url : Option String := some ""
  /-- The headers. -/
  headers : Headers := []
  /-- The body; null stands for no body. -/
  body : Value := .null

/-- A response. -/
structure Response where
  /-- The status. -/
  status : Option Int := none
  /-- The headers; none if the response has no headers at all. -/
  headers : Option Headers := none
  /-- The body; null stands for no body. -/
  body : Value := .null

/-- The value of something that may be absent. -/
def Value.ofOption {α : Type} (f : α → Value) : Option α → Value
  | none => .null
  | some a => f a

/-- The value that queries see for a request. -/
def Request.toValue (request : Request) : Value :=
  .object [
    (.text "http_method", .text request.method),
    (.text "url", Value.ofOption .text request.url),
    (.text "headers", request.headers.toValue),
    (.text "body", request.body)]

/-- The value that queries see for a response. -/
def Response.toValue (response : Response) : Value :=
  .object [
    (.text "status", Value.ofOption .int response.status),
    (.text "headers", Value.ofOption Headers.toValue response.headers),
    (.text "body", response.body)]

end Stencil
