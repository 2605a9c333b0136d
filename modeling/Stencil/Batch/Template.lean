import Stencil.Batch.Message
import Stencil.Schema
import Stencil.Text.Case

/-!
# Batch templates

A template lists the requests of a batch and may describe its response. Methods and addresses are
texts; headers, bodies and the status are schemas. Reading a template from data fails with the first
thing that is out of shape.
-/

namespace Stencil

/-- The template of a request. -/
structure RequestTemplate where
  /-- The address, which may hold spans. -/
  url : String
  /-- The method. -/
  method : String := "GET"
  /-- The schema of the headers. -/
  headers : Option Value := none
  /-- The schema of the body. -/
  body : Option Value := none

/-- The template of a response. -/
structure ResponseTemplate where
  /-- The schema of the status. -/
  status : Option Value := none
  /-- The schema of the headers. -/
  headers : Option Value := none
  /-- The schema of the body. -/
  body : Option Value := none

/-- The template of a batch. -/
structure BatchTemplate where
  /-- The requests in order. -/
  requests : List RequestTemplate := []
  /-- The response. -/
  response : Option ResponseTemplate := none

namespace BatchTemplate

/-- The fields of a request. -/
def requestFields : List String := ["http_method", "method", "url", "headers", "body"]

/-- The fields of a response. -/
def responseFields : List String := ["status", "headers", "body"]

/-- The problem of data from a source. -/
def refuse {α : Type} (problem : ConfigProblem) (source : Option String) : Outcome α :=
  Outcome.fail (.config problem source)

/-- The value of a member; none if it is absent or null. -/
def optional (members : List (Key × Value)) (name : String) : Option Value :=
  (Fields.find? members name).filter fun v => !v.isNull

/-- The keys of members that are not among the known names. -/
def unknownKeys (known : List String) (members : List (Key × Value)) : List Key :=
  (members.filter fun entry => !known.any fun name => entry.1.same (.text name)).map Prod.fst

/-- The problem of data with unknown keys, of which the plain texts are shown. -/
def refuseKeys {α : Type} (problem : List String → ConfigProblem) (source : Option String)
    (keys : List Key) : Outcome α := do
  let names ← keys.mapM Key.plainText
  refuse (problem names) source

/-- The method in a request's members, in upper case. -/
def methodOf (members : List (Key × Value)) : Outcome String :=
  let given := (Fields.find? members "http_method").orElse fun _ => Fields.find? members "method"
  (Headers.plainText (given.getD (.text "GET"))).map Text.upper

/-- The template of the request with the given number. -/
def readRequest (source : Option String) (number : Nat) : Value → Outcome RequestTemplate
  | .object members =>
    match Fields.find? members "url" with
    | some (.text url) =>
      if url.isEmpty then refuse (.requestUrl number) source
      else
        match unknownKeys requestFields members with
        | [] => do
          let method ← methodOf members
          let headers := optional members "headers"
          return { url, method, headers, body := optional members "body" }
        | unknown => refuseKeys (.requestFields number) source unknown
    | _ => refuse (.requestUrl number) source
  | _ => refuse (.requestShape number) source

/-- The templates of requests, the first of which has the given number. -/
def readRequests (source : Option String) (number : Nat) :
    List Value → Outcome (List RequestTemplate)
  | [] => Except.ok []
  | v :: rest => do
    let request ← readRequest source number v
    return request :: (← readRequests source (number + 1) rest)

/-- The template of a response. -/
def readResponse (source : Option String) : Value → Outcome ResponseTemplate
  | .object members =>
    match unknownKeys responseFields members with
    | [] =>
      Except.ok { status := optional members "status", headers := optional members "headers",
                  body := optional members "body" }
    | unknown => refuseKeys .responseFields source unknown
  | _ => refuse .responseShape source

/-- The template that data describes. `source` names where the data comes from. -/
def ofValue (source : Option String) : Value → Outcome BatchTemplate
  | .object members => do
    let listed := (Fields.find? members "requests").getD .null
    let requests ← match listed with
      | .list items => readRequests source 1 items
      | v => if v.isAbsent then Except.ok [] else refuse .requestsShape source
    let response ← match optional members "response" with
      | none => Except.ok none
      | some v => (readResponse source v).map some
    return { requests, response }
  | _ => refuse .templateShape source

end BatchTemplate

/-- The opening request that data describes. `source` names where the data comes from. -/
def Request.ofValue (source : Option String) : Value → Outcome Request
  | .null => Except.ok {}
  | .object members => do
    let given := (Fields.find? members "headers").getD .null
    let headers ← match given with
      | .object _ => Headers.normalize given
      | v => if v.isAbsent then Except.ok [] else BatchTemplate.refuse .openingHeaders source
    let method ← BatchTemplate.methodOf members
    let url ← Headers.plainText ((Fields.find? members "url").getD (.text ""))
    return { method, url := some url, headers, body := (Fields.find? members "body").getD .null }
  | _ => BatchTemplate.refuse .openingShape source

end Stencil
