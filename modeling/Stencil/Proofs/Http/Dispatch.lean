import Stencil.Http.Client
import Stencil.Proofs.Batch.Stage

/-!
# How a request ends

A client that is to send a request either fails before anything is sent, or hands one request to its
transport. If the transport gives no response, that is the failure that the caller is told. If it
gives one, the cookies of the response go into the jar, and whatever else is done with the response
changes nothing but the outcome.
-/

namespace Stencil.Http

/-- The jar after a response to a request. -/
def Jar.after (jar : Jar) (now : Present) (wire : WireRequest) (response : WireResponse) : Jar :=
  jar.receive now (CookieSite.ofUrl wire.url wire.lines) response.lines

namespace Client

variable {σ : Type}

/-- The failure of a request that got no response. -/
def failed (request : Request) (reason : String) : Failure :=
  .error (.dispatch request.method (request.url.getD "") reason)

/-- What is made of a response, with its cookies in the jar already. -/
def answerOf (request : Request) (address : Url) (jar : Jar) (response : WireResponse) :
    Outcome Response := do
  match ← misdirection? address jar response with
  | some reason => Except.error (failed request reason)
  | none =>
    match Packing.undoAll (Packing.ofLines response.lines) response.content with
    | .error fault =>
      Except.error (failed request ("Error -3 while decompressing data: " ++ fault.message))
    | .ok content => responseOf { response with content }

/-- The outcome after a response, and the jar then. Cookies are taken from lines that are ASCII, and
if the address of the request has a scheme. -/
def received (request : Request) (wire : WireRequest) (jar : Jar) (now : Present)
    (response : WireResponse) : Outcome Response × Jar :=
  if !Lines.isAscii response.lines then (.error (.defect .encode), jar)
  else if !hasKind wire.url then (.error (.defect .value), jar)
  else
    (answerOf request wire.url (jar.after now wire response) response,
      jar.after now wire response)

/-- A response of ASCII lines to an address with a scheme has its cookies put in the jar. -/
theorem received_eq {request : Request} {wire : WireRequest} {jar : Jar} {now : Present}
    {response : WireResponse} (ascii : Lines.isAscii response.lines = true)
    (kind : hasKind wire.url = true) :
    received request wire jar now response =
      (answerOf request wire.url (jar.after now wire response) response,
        jar.after now wire response) := by
  rw [received, ascii, kind]
  rfl

/-- How sending a request ends, with the state after it. -/
inductive Dispatches (c : Client) (transport : Transport σ) (clock : Clock σ) (request : Request)
    (online : Online σ) : Outcome Response → Online σ → Prop
  /-- Nothing is sent. -/
  | unsent {e : Failure} (refused : c.outgoing clock online request = .error e) :
    Dispatches c transport clock request online (.error e) online
  /-- What is sent gets no response. -/
  | unanswered {wire : WireRequest} {reason : String} {outside : σ}
    (sent : c.outgoing clock online request = .ok wire)
    (silent : (transport wire).run online.outside = (.error reason, outside)) :
    Dispatches c transport clock request online (.error (failed request reason))
      ⟨online.jar, outside⟩
  /-- What is sent gets a response. -/
  | answered {wire : WireRequest} {response : WireResponse} {outside : σ}
    (sent : c.outgoing clock online request = .ok wire)
    (answers : (transport wire).run online.outside = (.ok response, outside)) :
    Dispatches c transport clock request online
      (received request wire online.jar (clock outside) response).1
      ⟨(received request wire online.jar (clock outside) response).2, outside⟩

section

variable {c : Client} {transport : Transport σ} {clock : Clock σ} {request : Request}
variable {online : Online σ}

/-- A request that cannot be put on the wire changes nothing. -/
theorem run_dispatch_unsent {e : Failure} (refused : c.outgoing clock online request = .error e) :
    (c.dispatch transport request clock).run.run online = (.error e, online) := by
  have opened : (c.dispatch transport request clock).run.run online =
      (Action.lift (c.outgoing clock online request) >>= _ : Action _ _).run.run online := rfl
  rw [opened, refused, Action.run_lift_error_bind]

/-- A request without a response leaves the jar as it is. -/
theorem run_dispatch_unanswered {wire : WireRequest} {reason : String} {outside : σ}
    (sent : c.outgoing clock online request = .ok wire)
    (silent : (transport wire).run online.outside = (.error reason, outside)) :
    (c.dispatch transport request clock).run.run online =
      (.error (failed request reason), ⟨online.jar, outside⟩) := by
  unfold dispatch
  rw [Action.run_get_bind, sent, Action.lift_ok_bind, Action.run_get_bind, silent]
  rfl

/-- A request with a response ends as the response decides. -/
theorem run_dispatch_answered {wire : WireRequest} {response : WireResponse} {outside : σ}
    (sent : c.outgoing clock online request = .ok wire)
    (answers : (transport wire).run online.outside = (.ok response, outside)) :
    (c.dispatch transport request clock).run.run online =
      ((received request wire online.jar (clock outside) response).1,
        ⟨(received request wire online.jar (clock outside) response).2, outside⟩) := by
  unfold dispatch received
  rw [Action.run_get_bind, sent, Action.lift_ok_bind, Action.run_get_bind, answers]
  dsimp only
  rw [Action.run_set_bind]
  split
  · rfl
  · split
    · rfl
    · rw [Action.run_modify_bind, Action.run_get_bind]
      dsimp only
      unfold answerOf Jar.after
      cases misdirection? wire.url
        (online.jar.receive (clock outside) (CookieSite.ofUrl wire.url wire.lines)
          response.lines) response with
      | error e => rfl
      | ok place =>
        cases place with
        | some reason => rfl
        | none =>
          rw [Action.lift_ok_bind, Outcome.ok_bind]
          cases Packing.undoAll (Packing.ofLines response.lines) response.content <;> rfl

/-- Sending a request ends in one of these ways. -/
theorem dispatches (c : Client) (transport : Transport σ) (clock : Clock σ) (request : Request)
    (online : Online σ) :
    Dispatches c transport clock request online
      ((c.dispatch transport request clock).run.run online).1
      ((c.dispatch transport request clock).run.run online).2 := by
  cases prepared : c.outgoing clock online request with
  | error e =>
    rw [run_dispatch_unsent prepared]
    exact .unsent prepared
  | ok wire =>
    rcases handed : (transport wire).run online.outside with ⟨answer, outside⟩
    cases answer with
    | error reason =>
      rw [run_dispatch_unanswered prepared handed]
      exact .unanswered prepared handed
    | ok response =>
      rw [run_dispatch_answered prepared handed]
      exact .answered prepared handed

end

end Client

end Stencil.Http
