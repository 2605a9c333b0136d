import Stencil.Proofs.Http.Answer
import Stencil.Proofs.Http.Independence

/-!
# Failures of a client

A request is put on the wire, or that breaks down before anything is sent. A request that is sent
is answered, or the caller is told that the dispatch failed, unless handling what came back breaks
down. So an error for the caller means that the request was sent.
-/

namespace Stencil

open Outcome (FailsOnly)

namespace Http

/-- The jar after an exchange. -/
def Exchange.jarAfter (exchange : Exchange) (jar : Jar) : Jar :=
  match exchange.answer with
  | .ok response => jar.after exchange.finish exchange.asked response
  | .error _ => jar

namespace Client

section Wire

/-- An address is read or breaks down. -/
theorem breaksOnly_ofUrl {α : Type} (found : Except UrlFault α) :
    FailsOnly Failure.IsBreakdown (ofUrl found) :=
  .mapError (fun _ => ⟨_, rfl⟩) found

/-- Whether a line tells the content type is told or breaks down. -/
theorem breaksOnly_tellsType (lines : List (Key × String)) :
    FailsOnly Failure.IsBreakdown (tellsType lines) := by
  fun_induction tellsType lines with
  | case1 | case2 => exact .ok _
  | case3 _ _ _ _ ih => exact ih
  | case4 => exact .error ⟨_, rfl⟩

/-- Lines are put on the wire or break down. -/
theorem breaksOnly_wireLines (lines : List (Key × String)) :
    FailsOnly Failure.IsBreakdown (wireLines lines) := by
  fun_induction wireLines lines with
  | case1 => exact .ok _
  | case2 _ _ _ _ ih => exact ih.map _
  | case3 | case4 => exact .error ⟨_, rfl⟩

/-- A request is prepared or breaks down. -/
theorem breaksOnly_prepare (c : Client) (request : Request) :
    FailsOnly Failure.IsBreakdown (c.prepare request) := by
  unfold prepare
  dsimp only
  split
  · exact .ok _
  · refine (Json.breaksOnly_write _ _).bind fun content => ?_
    refine (breaksOnly_tellsType _).bind fun told => ?_
    split <;> exact .ok _

/-- Cookies are added or break down. -/
theorem breaksOnly_withCookies (jar : Jar) (now : Int) (url : Url) (lines : Lines) :
    FailsOnly Failure.IsBreakdown (withCookies jar now url lines) := by
  unfold withCookies
  split
  · exact .ok _
  · split
    · exact .error ⟨_, rfl⟩
    · split <;> exact .ok _

/-- A request is put on the wire or breaks down. -/
theorem breaksOnly_wireRequest (c : Client) (jar : Jar) (now : Int) (request : Request) :
    FailsOnly Failure.IsBreakdown (c.wireRequest jar now request) := by
  unfold wireRequest
  refine (c.breaksOnly_prepare request).bind fun prepared => ?_
  cases request.url with
  | none => exact .error ⟨_, rfl⟩
  | some text =>
    exact (breaksOnly_ofUrl _).bind fun url => (breaksOnly_wireLines _).bind fun lines =>
      (breaksOnly_withCookies jar now url _).bind fun _ => .ok _

end Wire

section Answer

/-- The place that a text names is worked out or breaks down. -/
theorem breaksOnly_check (request : Url) (hasCookies : Bool) (text : List Char) :
    FailsOnly Failure.IsBreakdown (Redirect.check request hasCookies text) := by
  have host (url : Url) : FailsOnly Failure.IsBreakdown (Redirect.hostOf url) :=
    .mapError (fun _ => ⟨_, rfl⟩) _
  have moved (place : Url) : FailsOnly Failure.IsBreakdown (Redirect.withHostOf request place) :=
    (host request).bind fun _ => .mapError (fun _ => ⟨_, rfl⟩) _
  have goes (place : Url) (refused : Bool) : FailsOnly Failure.IsBreakdown (do
      let _ ← Redirect.hostOf (Redirect.seenFrom request place)
      let _ ← Redirect.hostOf request
      if refused then Outcome.defect .value
      return (none : Option UrlFault)) := by
    refine (host _).bind fun _ => (host _).bind fun _ => ?_
    cases refused with
    | true => exact .error ⟨_, rfl⟩
    | false => exact .ok _
  unfold Redirect.check
  dsimp only
  split
  · exact .ok _
  · next place _ =>
    split
    · exact goes place _
    · refine (host place).bind fun found => ?_
      split
      · exact (moved place).bind fun place => goes place _
      · exact goes place _

/-- The charset that a content type tells is told or breaks down. -/
theorem breaksOnly_charset? (contentType : List Char) :
    FailsOnly Failure.IsBreakdown (ContentType.charset? contentType) := by
  have parameters : FailsOnly Failure.IsBreakdown (ContentType.parameters contentType) := by
    unfold ContentType.parameters
    split
    · exact .ok _
    · dsimp only
      split
      · exact .error ⟨_, rfl⟩
      · exact .ok _
  have text (value : ParameterValue) :
      FailsOnly Failure.IsBreakdown (ContentType.textOf value) := by
    cases value with
    | plain text => exact .ok _
    | coded charset text =>
      unfold ContentType.textOf
      dsimp only
      generalize (if charset.isEmpty then "us-ascii".toList else charset) = charset
      split
      · exact .error ⟨_, rfl⟩
      · split
        · split <;> exact .ok _
        · exact .ok _
  refine parameters.bind fun found => ?_
  split
  · exact .ok _
  · exact (text _).bind fun _ => .ok _

/-- The text of content is read or breaks down. -/
theorem breaksOnly_readText (contentType : List Char) (content : List UInt8) :
    FailsOnly Failure.IsBreakdown (readText contentType content) := by
  refine (breaksOnly_charset? contentType).bind fun told => ?_
  dsimp only
  split
  · exact .error ⟨_, rfl⟩
  · split
    · exact .ok _
    · exact .mapError (fun _ => ⟨_, rfl⟩) _
    · exact .error ⟨_, rfl⟩
    · exact .error ⟨_, rfl⟩

/-- A place that cannot be used is told or breaks down. -/
theorem breaksOnly_misdirection? (request : Url) (jar : Jar) (response : WireResponse) :
    FailsOnly Failure.IsBreakdown (misdirection? request jar response) := by
  unfold misdirection?
  split
  · split
    · exact .ok _
    · exact (breaksOnly_check _ _ _).bind fun _ => .ok _
  · exact .ok _

variable {request : Request} {wire : WireRequest} {jar : Jar} {now : Present}
variable {response : WireResponse}

/-- Nothing is returned for a response because the dispatch failed, or by a breakdown. -/
theorem failsOnly_received : FailsOnly (fun failure => failure.IsBreakdown ∨
    ∃ reason, failure = failed request reason) (received request wire jar now response).1 := by
  intro e fails
  rcases returns_or_raises request wire jar now response with ⟨_, returns⟩ | ⟨e', raises⟩
  · cases fails.symm.trans (received_of_returns returns)
  · cases fails.symm.trans (received_of_raises raises)
    cases raises with
    | bodiless takes none =>
      cases none with
      | baffles => exact .inl ⟨_, rfl⟩
      | unreadable _ _ _ refused => exact .inl (breaksOnly_readText _ _ _ refused)
    | dropped drops =>
      cases drops with
      | lines | kind => exact .inl ⟨_, rfl⟩
      | place _ _ breaks => exact .inl (breaksOnly_misdirection? _ _ _ _ breaks)
      | misdirected | packing => exact .inr ⟨_, rfl⟩

/-- A request that is not answered was sent, and the dispatch failed, or there was a breakdown. -/
theorem of_dispatches_error {σ : Type} {c : Client} {transport : Transport σ} {clock : Clock σ}
    {online after : Online σ} {e : Failure}
    (ends : Dispatches c transport clock request online (.error e) after) :
    e.IsBreakdown ∨ ∃ reason, e = failed request reason ∧
      ∃ wire, c.outgoing clock online request = .ok wire := by
  generalize result : (Except.error e : Outcome Response) = outcome at ends
  cases ends with
  | unsent refused =>
    cases result
    exact .inl (breaksOnly_wireRequest _ _ _ _ _ refused)
  | unanswered sent silent =>
    cases result
    exact .inr ⟨_, rfl, _, sent⟩
  | answered sent answers =>
    rcases failsOnly_received _ result.symm with breaks | ⟨reason, told⟩
    · exact .inl breaks
    · exact .inr ⟨reason, told, _, sent⟩

end Answer

section Sent

/-- A client has made exchanges for requests, after which it has a jar: each was put on the wire
with the cookies of the responses before. -/
inductive Sent (c : Client) : List Request → List Exchange → Jar → Prop
  /-- Nothing was sent. -/
  | none : Sent c [] [] []
  /-- One more request was sent. -/
  | one {requests : List Request} {made : List Exchange} {jar : Jar} {request : Request}
    {exchange : Exchange} (before : Sent c requests made jar)
    (wired : c.wireRequest jar exchange.start.seconds request = .ok exchange.asked) :
    Sent c (requests ++ [request]) (made ++ [exchange]) (exchange.jarAfter jar)

variable {σ : Type} {c : Client} {transport : Transport σ} {clock : Clock σ} {request : Request}
variable {online after : Online (σ × List Exchange)} {requests : List Request}

/-- Before any request the jar is empty. -/
theorem Sent.eq_nil {made : List Exchange} {jar : Jar} (sent : c.Sent [] made jar) :
    made = [] ∧ jar = [] := by
  generalize nothing : ([] : List Request) = requests at sent
  cases sent with
  | none => exact ⟨rfl, rfl⟩
  | one => exact absurd nothing.symm (by simp)

/-- A request that is answered was sent, and the cookies of its response are in the jar. -/
theorem Dispatches.sent {response : Response}
    (ends : Dispatches c (transport.kept clock) clock.kept request online (.ok response) after)
    (before : c.Sent requests online.outside.2 online.jar) :
    c.Sent (requests ++ [request]) after.outside.2 after.jar := by
  generalize result : (Except.ok response : Outcome Response) = outcome at ends
  cases ends with
  | unsent => cases result
  | unanswered => cases result
  | @answered wire reply outside wired answers =>
    rw [Transport.of_run_kept answers]
    have taken : (received request wire online.jar (clock.kept outside) reply).2 =
        online.jar.after (clock.kept outside) wire reply := by
      unfold received at result ⊢
      split
      · rw [if_pos ‹_›] at result
        cases result
      · split
        · rw [if_neg ‹_›, if_pos ‹_›] at result
          cases result
        · rfl
    rw [taken]
    exact before.one wired

end Sent

end Client

end Http

end Stencil
