import Stencil.Batch.Template
import Stencil.Build

/-!
# Running a batch

The requests of a batch are built, sent and answered strictly one after the other. Every step is
built from a document that holds the opening request and all requests and responses so far. What
lies outside (the listener, the dispatcher, the clock) is a gateway with a state of its own, so a
run is a function from states to results.
-/

namespace Stencil

/-- Something that may change a state and may fail; a failure keeps the changes made before. -/
abbrev Action (σ : Type) := ExceptT Failure (StateM σ)

namespace Action

/-- An outcome without a change of state. -/
def lift {σ α : Type} (outcome : Outcome α) : Action σ α := ExceptT.mk (pure outcome)

/-- Lifting changes no state. -/
theorem run_lift {σ α : Type} (outcome : Outcome α) (s : σ) :
    (lift outcome : Action σ α).run.run s = (outcome, s) := rfl

end Action

/-- What a run of a batch needs from outside. -/
structure Gateway (σ : Type) where
  /-- Sends a request and gives its response. -/
  dispatch : Request → Action σ Response
  /-- Hears of a request that is about to be sent, with its index and the count of requests. -/
  onRequest : Nat → Nat → Request → Action σ Unit := fun _ _ _ => pure ()
  /-- Hears of a response, with the index of its request, the count of requests, and the seconds it
  took. -/
  onResponse : Nat → Nat → Response → Binary64 → Action σ Unit := fun _ _ _ _ => pure ()
  /-- The time in seconds. -/
  now : Action σ Binary64 := pure (.zero false)

/-- The messages of a batch so far. -/
structure History where
  /-- The request that started the batch. -/
  opening : Request
  /-- The requests sent, in order. -/
  requests : List Request := []
  /-- The responses received, in order. -/
  responses : List Response := []

namespace History

/-- The value that queries see. -/
def toValue (history : History) : Value :=
  .object [
    (.text "original", history.opening.toValue),
    (.text "requests", .list (history.requests.map Request.toValue)),
    (.text "responses", .list (history.responses.map Response.toValue))]

/-- The history with one more request and its response. -/
def record (history : History) (request : Request) (response : Response) : History :=
  { history with
    requests := history.requests ++ [request]
    responses := history.responses ++ [response] }

/-- The document that the next step is built from. -/
def document (history : History) : Outcome Value := Builder.detach history.toValue

end History

namespace Builder

/-- The address that an address template gives. -/
def buildUrl (b : Builder) (url : String) (document : Value) : Outcome (Option String) := do
  match ← b.build (.text ("str " ++ url)) document with
  | .text s => return some s
  | _ => return none

/-- The headers that a schema gives. -/
def buildHeaders (b : Builder) (schema document : Value) : Outcome Headers := do
  Headers.ofBuilt (← b.build schema document)

/-- The request that a template gives. -/
def buildRequest (b : Builder) (template : RequestTemplate) (document : Value) :
    Outcome Request := do
  let url ← b.buildUrl template.url document
  let body ← match template.body with
    | none => pure Value.null
    | some schema => b.build schema document
  let headers ← match template.headers with
    | none => pure []
    | some schema => b.buildHeaders schema document
  return { method := template.method, url, headers, body }

/-- The status that a schema gives. -/
def buildStatus (b : Builder) (schema document : Value) : Outcome (Option Int) := do
  match ← b.build schema document with
  | .null => return none
  | v =>
    match ← cast v .integer with
    | .int n => return some n
    | _ => return none

/-- The response that a template gives. -/
def buildResponse (b : Builder) (template : ResponseTemplate) (document : Value) :
    Outcome Response := do
  let status ← match template.status with
    | none => pure none
    | some schema => b.buildStatus schema document
  let body ← match template.body with
    | none => pure Value.null
    | some schema => b.build schema document
  let headers ← match template.headers with
    | none => pure none
    | some schema => (b.buildHeaders schema document).map some
  return { status, headers, body }

/-- Runs one step: builds the request from the document, sends it, and records it with its
response. -/
def runStep {σ : Type} (b : Builder) (gateway : Gateway σ) (index total : Nat)
    (template : RequestTemplate) (document : Value) (history : History) : Action σ History := do
  let request ← Action.lift (b.buildRequest template document)
  gateway.onRequest index total request
  let start ← gateway.now
  let response ← gateway.dispatch request
  let stop ← gateway.now
  gateway.onResponse index total response (stop.sub start)
  return history.record request response

/-- Runs the steps of the remaining templates, of which the first has the given index. The result
holds the document after the last step and the history. -/
def runSteps {σ : Type} (b : Builder) (gateway : Gateway σ) (total : Nat) :
    List RequestTemplate → Nat → Value → History → Action σ (Value × History)
  | [], _, document, history => pure (document, history)
  | template :: rest, index, document, history => do
    let history ← b.runStep gateway index total template document history
    let document ← Action.lift history.document
    b.runSteps gateway total rest (index + 1) document history

/-- Runs a batch for an opening request. Without a response template the response's body is the
whole history. -/
def runBatch {σ : Type} (b : Builder) (gateway : Gateway σ) (opening : Request)
    (template : BatchTemplate) : Action σ Response := do
  let history : History := { opening }
  let document ← Action.lift history.document
  let (document, history) ←
    b.runSteps gateway template.requests.length template.requests 0 document history
  match template.response with
  | some response => Action.lift (b.buildResponse response document)
  | none => return { body := history.toValue }

end Builder

end Stencil
