import Stencil.Batch.Run
import Stencil.Http.ContentType
import Stencil.Http.Encoding
import Stencil.Http.Jar
import Stencil.Http.Redirect
import Stencil.Json.Printer
import Stencil.Text.Sextet

/-!
# Sending requests

A client turns a request into the lines, the address and the content that go over the wire, and what
comes back into a response. Bodies are sent as JSON. A body that comes back is read as JSON if its
content type says so and the text is JSON, and is kept as text otherwise. A client remembers
cookies until they are over.
-/

namespace Stencil.Http

/-- A request on the wire. -/
structure WireRequest where
  /-- The method. -/
  method : String
  /-- The address. -/
  url : Url
  /-- The header lines. -/
  lines : Lines
  /-- The content. -/
  content : String

/-- A response on the wire. -/
structure WireResponse where
  /-- The status. -/
  status : Int := 200
  /-- The header lines. -/
  lines : Lines := []
  /-- The content. -/
  content : List UInt8 := []
  deriving Repr

/-- What carries a request and brings back a response, or says why there is none. -/
abbrev Transport (σ : Type) := WireRequest → StateM σ (Except String WireResponse)

/-- What a client sends with every request. -/
structure Client where
  /-- What relative addresses are appended to; its path ends with a slash. -/
  base : Url
  /-- The headers of every request; those of a request itself take their places. -/
  defaults : Headers

/-- What surrounds a client: its cookies, and the state of what lies outside. -/
structure Online (σ : Type) where
  /-- The cookies received so far. -/
  jar : Jar := []
  /-- What lies outside. -/
  outside : σ

namespace Client

/-- A breakdown while an address is read. -/
def ofUrl {α : Type} (found : Except UrlFault α) : Outcome α :=
  found.mapError fun _ => .defect .invalidUrl

/-- The client for a base address, which may be missing, and default headers. -/
def create (base : Option String) (defaults : Value) : Outcome Client := do
  let url ← match base with
    | none => pure {}
    | some s => if s.isEmpty then pure {} else ofUrl ((Url.parse s.toList).bind Url.withSlash)
  return { base := url, defaults := ← Headers.normalize defaults }

/-- The headers of a request together with the default ones. -/
def merge (defaults headers : Headers) : Headers :=
  headers.foldl (fun merged entry => Fields.insert merged entry.1 entry.2) defaults

/-- One line for each text of each header. -/
def linesOf (headers : Headers) : List (Key × String) :=
  headers.flatMap fun (name, texts) => texts.map fun text => (name, text)

/-- Whether a line tells the content type. The names before it must be texts. -/
def tellsType : List (Key × String) → Outcome Bool
  | [] => Except.ok false
  | (.text name, _) :: rest =>
    if Lines.sameName name "content-type" then Except.ok true else tellsType rest
  | _ :: _ => Outcome.defect .attribute

/-- Header lines as they go over the wire, which takes ASCII texts only. -/
def wireLines : List (Key × String) → Outcome Lines
  | [] => Except.ok []
  | (.text name, text) :: rest =>
    if Lines.isAscii [(name, text)] then (wireLines rest).map ((name, text) :: ·)
    else Outcome.defect .encode
  | _ :: _ => Outcome.defect .attribute

/-- The headers that a request is handed to the wire with, and its content. -/
def prepare (c : Client) (request : Request) : Outcome (List (Key × String) × String) := do
  let lines := linesOf (merge c.defaults request.headers)
  match request.body with
  | .null => return (lines, "")
  | body =>
    let content ← Json.write .spaced body
    if ← tellsType lines then return (lines, content)
    else return (lines ++ [(.text "Content-Type", "application/json")], content)

/-- The lines that every request has unless it sets them itself. -/
def standardLines : Lines := [
  ("Accept", "*/*"), ("Accept-Encoding", "gzip, deflate"), ("Connection", "keep-alive"),
  ("User-Agent", "python-httpx/0.28.1")]

/-- The methods whose requests always tell the length of their content. -/
def lengthMethods : List String := ["POST", "PUT", "PATCH"]

/-- The lines that tell the host and, for some methods, that there is no content. -/
def leadingLines (method : String) (url : Url) (lines : Lines) : Lines :=
  (if Lines.has lines "Host" || url.host.isEmpty then []
    else [("Host", String.ofList url.netloc)]) ++
  (if Lines.has lines "Content-Length" || Lines.has lines "Transfer-Encoding" ||
      !lengthMethods.contains method then []
    else [("Content-Length", "0")])

/-- The lines with the one that proves the user that an address names. -/
def withCredentials (url : Url) (lines : Lines) : Lines :=
  match url.credentials? with
  | none => lines
  | some (name, password) =>
    Lines.put lines "Authorization"
      ("Basic " ++ String.ofList (Text.inSextets
        ((name ++ ':' :: password).flatMap String.utf8EncodeChar)))

/-- Whether an address starts with something that a colon ends, as cookies need it. -/
def hasKind (url : Url) : Bool :=
  let run := url.text.takeWhile fun c => c ≠ '/' && c ≠ ':'
  !run.isEmpty && (url.text.drop run.length).head? = some ':'

/-- The lines with the one that sends cookies, unless the request has such a line itself. -/
def withCookies (jar : Jar) (now : Int) (url : Url) (lines : Lines) : Outcome Lines :=
  if jar.cookies.isEmpty then Except.ok lines
  else if !hasKind url then Outcome.defect .value
  else
    match jar.line? now (CookieSite.ofUrl url lines) with
    | some line => Except.ok (Lines.putDefault lines "Cookie" line)
    | none => Except.ok lines

/-- Without cookies no line is added. -/
theorem withCookies_nil (now : Int) (url : Url) (lines : Lines) :
    withCookies [] now url lines = Except.ok lines := rfl

/-- The request on the wire. -/
def wireRequest (c : Client) (jar : Jar) (now : Int) (request : Request) :
    Outcome WireRequest := do
  let (prepared, content) ← c.prepare request
  let text ← match request.url with
    | some text => pure text
    | none => Outcome.defect .type
  let url ← ofUrl (Url.resolve c.base text.toList)
  let lines := Lines.overriding standardLines (← wireLines prepared)
  let lines ← withCookies jar now url lines
  let method := Text.upper request.method
  let lines := if content.isEmpty then lines
    else Lines.putDefault lines "Content-Length"
      (String.ofList (Number.digits content.utf8ByteSize))
  let lines := withCredentials url (leadingLines method url lines ++ lines)
  return { method, url, lines, content }

/-- Why the place that a response sends a client to cannot be used. -/
def misdirection? (request : Url) (jar : Jar) (response : WireResponse) : Outcome (Option String) :=
  if Redirect.statuses.contains response.status then
    match Lines.combined? response.lines "Location" with
    | none => Except.ok none
    | some place => do
      let fault ← Redirect.check request (!jar.cookies.isEmpty) place.toList
      return fault.map fun fault => "Invalid URL in location header: " ++ fault.message ++ "."
  else Except.ok none

/-- Whether a word stands anywhere in a text. -/
def holdsWord (word : List Char) : List Char → Bool
  | [] => word.isEmpty
  | c :: rest => word.isPrefixOf (c :: rest) || holdsWord word rest

/-- Whether a content type tells of JSON. The word is written in lower case. -/
def mentionsJson (contentType : String) : Bool := holdsWord "json".toList contentType.toList

/-- The breakdown of reading bytes in a charset. -/
def ofCharsetFault : CharsetFault → Defect
  | .undecodable => .decode
  | .refused => .encoding

/-- The text of bytes in the charset that a content type names. Without a name that is known they
are read as units of one byte. -/
def readText (contentType : List Char) (content : List UInt8) : Outcome (List Char) := do
  let name := (← ContentType.charset? contentType).getD []
  if name.contains '\x00' then Outcome.defect .value
  else
    match Charset.named? name with
    | none => return Charset.text8 content
    | some (.charset c) =>
      (c.readTolerantly content).mapError fun fault => .defect (ofCharsetFault fault)
    | some .exchange => Outcome.defect .type
    | some .packing => Outcome.defect .assertion

/-- The content type of a response. -/
def contentTypeOf (response : WireResponse) : String :=
  (Lines.combined? response.lines "content-type").getD ""

/-- The text of a response's content. -/
def textBody (response : WireResponse) : Outcome Value :=
  (readText (contentTypeOf response).toList response.content).map fun chars =>
    .text (String.ofList chars)

/-- The body of a response. -/
def bodyOf (response : WireResponse) : Outcome Value :=
  if response.content.isEmpty then Except.ok .null
  else if mentionsJson (contentTypeOf response) then
    match Charset.strict? (Charset.readJson response.content) with
    | none => Outcome.defect .decode
    | some chars =>
      match Json.readChars .exact chars with
      | .error (.json _) => textBody response
      | outcome => outcome
  else textBody response

/-- The response that came back. -/
def responseOf (response : WireResponse) : Outcome Response := do
  let headers := (Lines.grouped response.lines).map fun (name, texts) => (Key.text name, texts)
  return { status := some response.status, headers := some headers, body := ← bodyOf response }

/-- The request on the wire at the present, with the cookies that go with it. -/
def outgoing {σ : Type} (c : Client) (clock : Clock σ) (online : Online σ) (request : Request) :
    Outcome WireRequest :=
  c.wireRequest online.jar (clock online.outside).seconds request

/-- Sends a request and gives its response. The clock is read before the request is sent, for the
cookies that go with it, and after its response came back, for the cookies that it sets. -/
def dispatch {σ : Type} (c : Client) (transport : Transport σ) (request : Request)
    (clock : Clock σ := fun _ => {}) : Action (Online σ) Response := do
  let wire ← Action.lift (c.outgoing clock (← get) request)
  let failed (reason : String) : Action (Online σ) Response :=
    throw (.error (.dispatch request.method (request.url.getD "") reason))
  let online ← get
  let (answer, outside) := (transport wire).run online.outside
  set { online with outside }
  match answer with
  | .error reason => failed reason
  | .ok response =>
    if !Lines.isAscii response.lines then throw (.defect .encode)
    if !hasKind wire.url then throw (.defect .value)
    let site := CookieSite.ofUrl wire.url wire.lines
    modify fun online =>
      { online with jar := online.jar.receive (clock outside) site response.lines }
    match ← Action.lift (misdirection? wire.url (← get).jar response) with
    | some reason => failed reason
    | none =>
      match Packing.undoAll (Packing.ofLines response.lines) response.content with
      | .error fault => failed ("Error -3 while decompressing data: " ++ fault.message)
      | .ok content => Action.lift (responseOf { response with content })

end Client

end Stencil.Http
