import Stencil.Proofs.Http.Dispatch
import Stencil.Proofs.Http.Jar
import Stencil.Proofs.Http.Wire

/-!
# Requests that one client sends after each other

All that a client keeps from one request to the next is its jar. What it sends for a request is
therefore what a fresh client sends for that request alone, as long as no response to an earlier
request sets a cookie that goes to the same site and is not over yet. Where one does, the request
has a line more.
-/

namespace Stencil.Http

variable {σ τ : Type}

/-- What a transport was handed, and what it gave back. -/
structure Exchange where
  /-- The request. -/
  asked : WireRequest
  /-- The time at which it was handed over. -/
  start : Present
  /-- The response, or why there is none. -/
  answer : Except String WireResponse
  /-- The time at which that was given back. -/
  finish : Present

/-- The response of an exchange sets a cookie. -/
def Exchange.Sets (exchange : Exchange) (cookie : Cookie) : Prop :=
  ∃ response wishes, exchange.answer = .ok response ∧
    CookieWish.ofLines? exchange.finish
      (CookieSite.ofUrl exchange.asked.url exchange.asked.lines)
      (Jar.settings response.lines) = some wishes ∧ .keep cookie ∈ wishes

/-- A transport together with the exchanges it has made, at the times that a clock tells. -/
def Transport.kept (transport : Transport σ) (clock : Clock σ) :
    Transport (σ × List Exchange) := fun wire => do
  let (world, past) ← get
  let (answer, after) := (transport wire).run world
  set (after, past ++ [⟨wire, clock world, answer, clock after⟩])
  return answer

/-- The exchanges that are kept do not move a clock. -/
def Clock.kept (clock : Clock σ) : Clock (σ × List Exchange) := fun outside => clock outside.1

/-- What passes through a transport is kept. -/
theorem Transport.of_run_kept {transport : Transport σ} {clock : Clock σ} {wire : WireRequest}
    {outside after : σ × List Exchange} {answer : Except String WireResponse}
    (h : (transport.kept clock wire).run outside = (answer, after)) :
    after.2 = outside.2 ++ [⟨wire, clock.kept outside, answer, clock.kept after⟩] := by
  have opened : (transport.kept clock wire).run outside =
      (((transport wire).run outside.1).1, (((transport wire).run outside.1).2,
        outside.2 ++ [⟨wire, clock outside.1, ((transport wire).run outside.1).1,
          clock ((transport wire).run outside.1).2⟩])) := rfl
  rw [opened] at h
  cases h
  rfl

namespace Client

/-- The state after requests that are sent one after the other, whether they fail or not. -/
def sendAll (c : Client) (transport : Transport σ) (clock : Clock σ) (online : Online σ)
    (requests : List Request) : Online σ :=
  requests.foldl (fun online request => ((c.dispatch transport request clock).run.run online).2)
    online

/-- The state of a fresh client after requests, where the exchanges are kept. -/
def onlineAfter (c : Client) (transport : Transport σ) (clock : Clock σ) (world : σ)
    (requests : List Request) : Online (σ × List Exchange) :=
  c.sendAll (transport.kept clock) clock.kept { outside := (world, []) } requests

/-- The exchanges of a fresh client that sends requests one after the other. -/
def exchanges (c : Client) (transport : Transport σ) (clock : Clock σ) (world : σ)
    (requests : List Request) : List Exchange :=
  (c.onlineAfter transport clock world requests).outside.2

/-- What reaches the transport for a request that comes after earlier ones. -/
def sentAfter (c : Client) (transport : Transport σ) (clock : Clock σ) (world : σ)
    (earlier : List Request) (request : Request) : List WireRequest :=
  ((c.exchanges transport clock world (earlier ++ [request])).drop
    (c.exchanges transport clock world earlier).length).map Exchange.asked

/-- The time after requests, in seconds. -/
def timeAfter (c : Client) (transport : Transport σ) (clock : Clock σ) (world : σ)
    (requests : List Request) : Int :=
  (clock.kept (c.onlineAfter transport clock world requests).outside).seconds

section

variable {c : Client} {transport : Transport σ} {clock : Clock σ}
variable {online : Online (σ × List Exchange)} {request : Request}

/-- Sending one more request goes on from the state that the earlier ones left. -/
theorem sendAll_append (c : Client) (transport : Transport σ) (clock : Clock σ)
    (online : Online σ) (earlier : List Request) (request : Request) :
    c.sendAll transport clock online (earlier ++ [request]) =
      ((c.dispatch transport request clock).run.run
        (c.sendAll transport clock online earlier)).2 := by
  rw [sendAll, List.foldl_append]
  rfl

/-- A request makes one exchange if it can be put on the wire, and none otherwise. -/
theorem asked_dispatch (c : Client) (transport : Transport σ) (clock : Clock σ)
    (request : Request) (online : Online (σ × List Exchange)) :
    ∃ made, ((c.dispatch (transport.kept clock) request clock.kept).run.run online).2.outside.2 =
        online.outside.2 ++ made ∧
      made.map Exchange.asked = (c.outgoing clock.kept online request).toOption.toList := by
  have ends := dispatches c (transport.kept clock) clock.kept request online
  generalize ((c.dispatch (transport.kept clock) request clock.kept).run.run online).1 = result
    at ends
  generalize ((c.dispatch (transport.kept clock) request clock.kept).run.run online).2 = after
    at ends
  cases ends with
  | unsent refused =>
    rw [refused]
    exact ⟨[], (List.append_nil _).symm, rfl⟩
  | unanswered sent silent =>
    rw [sent]
    exact ⟨_, Transport.of_run_kept silent, rfl⟩
  | answered sent answers =>
    rw [sent]
    exact ⟨_, Transport.of_run_kept answers, rfl⟩

/-- What reaches the transport for a request depends on the jar and the time only. -/
theorem sentAfter_eq (c : Client) (transport : Transport σ) (clock : Clock σ) (world : σ)
    (earlier : List Request) (request : Request) :
    c.sentAfter transport clock world earlier request =
      (c.wireRequest (c.onlineAfter transport clock world earlier).jar
        (c.timeAfter transport clock world earlier) request).toOption.toList := by
  obtain ⟨made, more, asked⟩ := asked_dispatch c transport clock request
    (c.onlineAfter transport clock world earlier)
  have later : c.exchanges transport clock world (earlier ++ [request]) =
      c.exchanges transport clock world earlier ++ made := by
    rw [exchanges, onlineAfter, sendAll_append]
    exact more
  rw [sentAfter, later, List.drop_left, asked]
  rfl

/-- Every cookie of the jar was set by the response of an exchange. -/
def Remembers (online : Online (σ × List Exchange)) : Prop :=
  ∀ cookie ∈ online.jar.cookies, ∃ exchange ∈ online.outside.2, exchange.Sets cookie

/-- A response puts only cookies into the jar that it sets. -/
theorem of_mem_cookies_received {wire : WireRequest} {jar : Jar} {start finish : Present}
    {response : WireResponse} {cookie : Cookie}
    (among : cookie ∈ (received request wire jar finish response).2.cookies) :
    cookie ∈ jar.cookies ∨ Exchange.Sets ⟨wire, start, .ok response, finish⟩ cookie := by
  rw [received] at among
  split at among
  · exact .inl among
  · split at among
    · exact .inl among
    · rcases Jar.of_mem_cookies_receive among with old | ⟨wishes, found, wished⟩
      · exact .inl old
      · exact .inr ⟨response, wishes, rfl, found, wished⟩

/-- Sending a request keeps in mind where the cookies come from. -/
theorem Remembers.dispatch (remembers : Remembers online) (request : Request) :
    Remembers ((c.dispatch (transport.kept clock) request clock.kept).run.run online).2 := by
  have ends := dispatches c (transport.kept clock) clock.kept request online
  generalize ((c.dispatch (transport.kept clock) request clock.kept).run.run online).1 = result
    at ends
  generalize ((c.dispatch (transport.kept clock) request clock.kept).run.run online).2 = after
    at ends
  -- what was exchanged before has been exchanged after one more exchange too
  have earlier {cookie : Cookie} (among : cookie ∈ online.jar.cookies) (last : Exchange) :
      ∃ exchange ∈ online.outside.2 ++ [last], exchange.Sets cookie := by
    obtain ⟨exchange, made, sets⟩ := remembers cookie among
    exact ⟨exchange, List.mem_append_left _ made, sets⟩
  cases ends with
  | unsent refused => exact remembers
  | unanswered sent silent =>
    intro cookie among
    rw [Transport.of_run_kept silent]
    exact earlier among _
  | answered sent answers =>
    intro cookie among
    rw [Transport.of_run_kept answers]
    rcases of_mem_cookies_received among with old | sets
    · exact earlier old _
    · exact ⟨_, List.mem_append_right _ (List.mem_singleton_self _), sets⟩

/-- Sending requests keeps in mind where the cookies come from. -/
theorem Remembers.sendAll (remembers : Remembers online) (requests : List Request) :
    Remembers (c.sendAll (transport.kept clock) clock.kept online requests) := by
  induction requests generalizing online with
  | nil => exact remembers
  | cons request rest ih => exact ih (remembers.dispatch request)

/-- Every cookie of the jar was set by a response to an earlier request. -/
theorem exists_sets_of_mem_cookies {world : σ} {earlier : List Request} {cookie : Cookie}
    (among : cookie ∈ (c.onlineAfter transport clock world earlier).jar.cookies) :
    ∃ exchange ∈ c.exchanges transport clock world earlier, exchange.Sets cookie := by
  have fresh : Remembers ({ outside := (world, []) } : Online (σ × List Exchange)) := nofun
  exact fresh.sendAll earlier cookie among

end

end Client

/-- How what a client sends for a request may differ from what a fresh one sends, where some cookies
have been set before and a request is sent now. -/
inductive Leaks (set : Cookie → Prop) (now : Int) : List WireRequest → List WireRequest → Prop
  /-- The request has no line of cookies, and one is added: it sends some of the cookies that go to
  the site of the request. -/
  | cookies {wire : WireRequest} {cookies : List Cookie} {lines : Lines} (filled : cookies ≠ [])
    (origin : ∀ cookie ∈ cookies, set cookie ∧
      cookie.goesTo now (CookieSite.ofUrl wire.url wire.lines) = true)
    (bare : Lines.has wire.lines "Cookie" = false)
    (added : Lines.IsInserted ("Cookie", Jar.sending cookies) wire.lines lines) :
    Leaks set now [wire] [{ wire with lines }]
  /-- The address of the request has no scheme, so that it cannot be seen which cookies go there,
  and nothing is sent. -/
  | refused {wire : WireRequest} {cookie : Cookie} (origin : set cookie)
    (plain : Client.hasKind wire.url = false) : Leaks set now [wire] []

namespace Client

/-- A fresh client hands a request to the transport as it is put on the wire without any cookies, at
any time. Whatever a client of the same configuration has sent and received before, the same reaches
its transport for that request, unless a response to an earlier request has set a cookie. Then the
only difference is a line of such cookies, of those that are not over, or that a request to an
address without a scheme is not sent. -/
theorem sentAfter_eq_or_leaks (c : Client) (transport : Transport σ) (clock : Clock σ) (world : σ)
    (earlier : List Request) (request : Request) (other : Transport τ) (otherClock : Clock τ)
    (elsewhere : τ) :
    (∀ now, c.sentAfter other otherClock elsewhere [] request =
      (c.wireRequest [] now request).toOption.toList) ∧
    (c.sentAfter transport clock world earlier request =
        c.sentAfter other otherClock elsewhere [] request ∨
      Leaks
        (fun cookie => ∃ exchange ∈ c.exchanges transport clock world earlier,
          exchange.Sets cookie)
        (c.timeAfter transport clock world earlier)
        (c.sentAfter other otherClock elsewhere [] request)
        (c.sentAfter transport clock world earlier request)) := by
  have fresh (now : Int) : c.sentAfter other otherClock elsewhere [] request =
      (c.wireRequest [] now request).toOption.toList := by
    rw [wireRequest_nil c now (c.timeAfter other otherClock elsewhere []) request]
    exact sentAfter_eq c other otherClock elsewhere [] request
  refine ⟨fresh, ?_⟩
  rw [fresh (c.timeAfter transport clock world earlier), sentAfter_eq]
  rcases wireRequest_cases c (c.onlineAfter transport clock world earlier).jar
      (c.timeAfter transport clock world earlier) request with
    same | ⟨wire, alone, ⟨plain, filled, e, refused⟩ | ⟨value, lines, sends, bare, added, sent⟩⟩
  · exact .inl (by rw [same])
  · obtain ⟨cookie, among⟩ := List.exists_mem_of_ne_nil _ filled
    rw [alone, refused]
    exact .inr (.refused (exists_sets_of_mem_cookies among) plain)
  · obtain ⟨cookies, nonempty, perm, rfl⟩ := Jar.exists_perm_of_line? sends
    have origin : ∀ cookie ∈ cookies,
        (∃ exchange ∈ c.exchanges transport clock world earlier, exchange.Sets cookie) ∧
          cookie.goesTo (c.timeAfter transport clock world earlier)
            (CookieSite.ofUrl wire.url wire.lines) = true := by
      intro cookie among
      obtain ⟨inJar, goes⟩ := List.mem_filter.mp (perm.mem_iff.mp among)
      exact ⟨exists_sets_of_mem_cookies inJar, goes⟩
    rw [alone, sent]
    exact .inr (.cookies nonempty origin bare added)

/-- A cookie that one response sets is sent with the next request. -/
theorem sentAfter_ne :
    let c : Client := { base := {}, defaults := [] }
    let transport : Transport Unit := fun _ =>
      pure (.ok { lines := [("Set-Cookie", "session=alice")] })
    let clock : Clock Unit := fun _ => {}
    let request : Request := { url := some "http://a/" }
    c.sentAfter transport clock () [request] request ≠
      c.sentAfter transport clock () [] request := by
  intro c transport clock request same
  have told : ((c.sentAfter transport clock () [request] request).any fun wire =>
    Lines.has wire.lines "Cookie") = true := by decide +kernel
  rw [same] at told
  revert told
  decide +kernel

end Client

end Stencil.Http
