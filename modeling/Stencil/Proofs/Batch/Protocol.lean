import Stencil.Proofs.Batch.Stage

/-!
# The protocol of a batch

What is seen of a run from outside. For each step in turn its request is announced and sent, and its
response is passed on; a failure ends the run at once. The dispatcher may answer or fail as it
likes, and it may change the world in which the next request finds it.
-/

namespace Stencil

/-- Something seen of a run. -/
inductive Event where
  /-- A request is announced, with its index and the count of requests. -/
  | announced (index total : Nat) (request : Request)
  /-- A request is sent. -/
  | sent (request : Request)
  /-- A response is passed on, with the index of its request and the count of requests. -/
  | answered (index total : Nat) (response : Response)

namespace Event

/-- The events of a step that is complete. -/
def ofExchange (total index : Nat) (exchange : Request × Response) : List Event :=
  [.announced index total exchange.1, .sent exchange.1, .answered index total exchange.2]

/-- The events of complete steps, in order. -/
def ofPast (total : Nat) (past : List (Request × Response)) : List Event :=
  (past.mapIdx (ofExchange total)).flatten

/-- The events of one more step follow those of the steps before. -/
theorem ofPast_concat (total : Nat) (past : List (Request × Response))
    (exchange : Request × Response) :
    ofPast total (past ++ [exchange]) =
      ofPast total past ++ ofExchange total past.length exchange := by
  simp [ofPast, List.mapIdx_append]

end Event

variable {τ : Type}

/-- The world outside, with what has been seen of a run. -/
structure Recorder (τ : Type) where
  /-- The world, which the dispatcher and the clock may change. -/
  world : τ
  /-- The events, in order. -/
  events : List Event := []

namespace Recorder

/-- Sees an event. -/
def see (event : Event) : Action (Recorder τ) Unit :=
  ExceptT.mk fun recorder => (.ok (), { recorder with events := recorder.events ++ [event] })

/-- Runs what happens in the world. -/
def within {α : Type} (happens : τ → Outcome α × τ) : Action (Recorder τ) α :=
  ExceptT.mk fun recorder =>
    let (outcome, world) := happens recorder.world
    (outcome, { recorder with world })

/-- The gateway to a dispatcher and a clock in the world that records what is seen. -/
def recording (dispatch : Request → τ → Outcome Response × τ) (clock : τ → Binary64 × τ) :
    Gateway (Recorder τ) where
  onRequest index total request := see (.announced index total request)
  dispatch request := do
    see (.sent request)
    within (dispatch request)
  onResponse index total response _ := see (.answered index total response)
  now := within fun world => (.ok (clock world).1, (clock world).2)

end Recorder

section

variable {dispatch : Request → τ → Outcome Response × τ} {clock : τ → Binary64 × τ}

namespace Recorder

/-- Reading the clock is not seen. -/
theorem run_now (recorder : Recorder τ) :
    (recording dispatch clock).now.run.run recorder =
      (.ok (clock recorder.world).1, ⟨(clock recorder.world).2, recorder.events⟩) := rfl

variable {recorder : Recorder τ} {index total : Nat} {request : Request} {world : τ}

/-- A request that is announced is seen. -/
theorem run_onRequest :
    ((recording dispatch clock).onRequest index total request).run.run recorder =
      (.ok (), ⟨recorder.world, recorder.events ++ [.announced index total request]⟩) := rfl

/-- A response that is passed on is seen. -/
theorem run_onResponse {response : Response} {seconds : Binary64} :
    ((recording dispatch clock).onResponse index total response seconds).run.run recorder =
      (.ok (), ⟨recorder.world, recorder.events ++ [.answered index total response]⟩) := rfl

/-- A request that is sent is seen, whether the dispatcher answers or fails. -/
theorem run_dispatch {outcome : Outcome Response}
    (dispatched : dispatch request recorder.world = (outcome, world)) :
    ((recording dispatch clock).dispatch request).run.run recorder =
      (outcome, ⟨world, recorder.events ++ [.sent request]⟩) := by
  have opened : ((recording dispatch clock).dispatch request).run.run recorder =
      ((dispatch request recorder.world).1,
        ⟨(dispatch request recorder.world).2, recorder.events ++ [.sent request]⟩) := rfl
  rw [opened, dispatched]

/-- An exchange that is answered is seen as a whole. -/
theorem run_exchange_ok {response : Response}
    (answered : dispatch request (clock recorder.world).2 = (.ok response, world)) :
    ((recording dispatch clock).exchange index total request).run.run recorder =
      (.ok response, ⟨(clock world).2,
        recorder.events ++ Event.ofExchange total index (request, response)⟩) := by
  rw [Gateway.exchange, Action.run_bind_ok run_onRequest, Action.run_bind_ok (run_now _)]
  rw [Action.run_bind_ok (run_dispatch answered), Action.run_bind_ok (run_now _)]
  rw [Action.run_bind_ok run_onResponse]
  simp only [List.append_assoc]
  rfl

/-- An exchange that is not answered is seen up to the request. -/
theorem run_exchange_error {e : Failure}
    (unanswered : dispatch request (clock recorder.world).2 = (.error e, world)) :
    ((recording dispatch clock).exchange index total request).run.run recorder =
      (.error e, ⟨world,
        recorder.events ++ [.announced index total request, .sent request]⟩) := by
  rw [Gateway.exchange, Action.run_bind_ok run_onRequest, Action.run_bind_ok (run_now _)]
  rw [Action.run_bind_error (run_dispatch unanswered)]
  simp only [List.append_assoc]
  rfl

/-- An exchange that is answered was answered by the dispatcher. -/
theorem of_run_exchange_eq_ok {response : Response} {after : Recorder τ}
    (h : ((recording dispatch clock).exchange index total request).run.run recorder =
      (.ok response, after)) :
    ∃ world, dispatch request (clock recorder.world).2 = (.ok response, world) ∧
      after = ⟨(clock world).2,
        recorder.events ++ Event.ofExchange total index (request, response)⟩ := by
  cases dispatched : dispatch request (clock recorder.world).2 with
  | mk outcome world =>
    cases outcome with
    | error e =>
      rw [run_exchange_error dispatched] at h
      cases h
    | ok answer =>
      rw [run_exchange_ok dispatched] at h
      cases h
      exact ⟨world, rfl, rfl⟩

end Recorder

section

variable (b : Builder) (dispatch : Request → τ → Outcome Response × τ) (clock : τ → Binary64 × τ)
variable (opening : Request) (world : τ)

/-- A run of a batch in a world in which nothing is seen yet. -/
def recordedRun (template : BatchTemplate) : Outcome Response × Recorder τ :=
  (b.runBatch (Recorder.recording dispatch clock) opening template).run.run ⟨world, []⟩

/-- A stage that such a run reaches. -/
abbrev Records (template : BatchTemplate) (stage : Stage (Recorder τ)) : Prop :=
  Stage.Reached b (Recorder.recording dispatch clock) opening template ⟨world, []⟩ stage

/-- The templates have as many requests, and the first ones are the same; the other ones and the
responses may differ. -/
def SharesSteps (count : Nat) (template other : BatchTemplate) : Prop :=
  other.requests.length = template.requests.length ∧
    ∀ k < count, other.requests[k]? = template.requests[k]?

/-- The protocol of a run. What happens at a stage that the run reaches is told by the outcome and
by the events: those of the complete steps, and of the step at hand as far as it goes. A run that
fails is the same for every batch that shares the steps up to the one that fails. -/
structure FollowsProtocol (template : BatchTemplate) : Prop where
  /-- If the opening request does not become a document, nothing is seen. -/
  unopened : ∀ e, (History.after opening []).document = .error e →
    ∀ other, recordedRun b dispatch clock opening world other = (.error e, ⟨world, []⟩)
  /-- At every stage the events are those of the complete steps. -/
  seen : ∀ stage, Records b dispatch clock opening world template stage →
    stage.state.events = Event.ofPast template.requests.length stage.past
  /-- Each exchange of a stage is of the request that its template gives for the exchanges before
  it, and of the dispatcher's response to that request. -/
  made : ∀ stage, Records b dispatch clock opening world template stage →
    ∀ k request response, stage.past[k]? = some (request, response) →
    ∃ earlier asked after, Records b dispatch clock opening world template earlier ∧
      earlier.past = stage.past.take k ∧
      template.requests[k]? = some asked ∧
      b.buildRequest asked earlier.document = .ok request ∧
      dispatch request (clock earlier.state.world).2 = (.ok response, after)
  /-- If the next request cannot be built, the run ends with that failure. -/
  unbuilt : ∀ stage, Records b dispatch clock opening world template stage →
    ∀ asked e, template.requests[stage.past.length]? = some asked →
    b.buildRequest asked stage.document = .error e →
    ∀ other, SharesSteps (stage.past.length + 1) template other →
      recordedRun b dispatch clock opening world other =
        (.error e, ⟨stage.state.world, Event.ofPast template.requests.length stage.past⟩)
  /-- If the next request is not answered, it is announced and sent, and the run ends with that
  failure. -/
  unanswered : ∀ stage, Records b dispatch clock opening world template stage →
    ∀ asked request e after, template.requests[stage.past.length]? = some asked →
    b.buildRequest asked stage.document = .ok request →
    dispatch request (clock stage.state.world).2 = (.error e, after) →
    ∀ other, SharesSteps (stage.past.length + 1) template other →
      recordedRun b dispatch clock opening world other =
        (.error e, ⟨after, Event.ofPast template.requests.length stage.past ++
          [.announced stage.past.length template.requests.length request, .sent request]⟩)
  /-- If the next exchange does not become part of a document, its events are seen, and the run ends
  with that failure. -/
  unrecorded : ∀ stage, Records b dispatch clock opening world template stage →
    ∀ asked request response e after, template.requests[stage.past.length]? = some asked →
    b.buildRequest asked stage.document = .ok request →
    dispatch request (clock stage.state.world).2 = (.ok response, after) →
    (History.after opening (stage.past ++ [(request, response)])).document = .error e →
    ∀ other, SharesSteps (stage.past.length + 1) template other →
      recordedRun b dispatch clock opening world other =
        (.error e, ⟨(clock after).2, Event.ofPast template.requests.length
          (stage.past ++ [(request, response)])⟩)
  /-- If all steps are complete and the batch describes no response, the response is of no status
  and no headers, and its body is the opening request with the requests and the responses of all
  steps. -/
  complete : ∀ stage, Records b dispatch clock opening world template stage →
    stage.past.length = template.requests.length → template.response = none →
      recordedRun b dispatch clock opening world template =
        (.ok { status := none, headers := none, body := .object [
            (.text "original", opening.toValue),
            (.text "requests", .list (stage.past.map fun exchange => exchange.1.toValue)),
            (.text "responses", .list (stage.past.map fun exchange => exchange.2.toValue))] },
          ⟨stage.state.world, Event.ofPast template.requests.length stage.past⟩)
  /-- A run whose opening request becomes a document reaches a stage where it stops: all steps are
  complete, or the next request is not built, not answered, or not recorded. -/
  stops : (∃ e, (History.after opening []).document = .error e) ∨
    ∃ stage outcome state, Records b dispatch clock opening world template stage ∧
      Stage.Stops b (Recorder.recording dispatch clock) opening template stage outcome state ∧
      recordedRun b dispatch clock opening world template = (outcome, state)

end

variable {b : Builder} {dispatch : Request → τ → Outcome Response × τ} {clock : τ → Binary64 × τ}
variable {opening : Request} {world : τ} {template : BatchTemplate} {stage : Stage (Recorder τ)}

/-- At every stage the events are those of the complete steps. -/
theorem Records.events_eq (records : Records b dispatch clock opening world template stage) :
    stage.state.events = Event.ofPast template.requests.length stage.past := by
  induction records with
  | start => rfl
  | step before asks built answered recorded ih =>
    obtain ⟨after, -, rfl⟩ := Recorder.of_run_exchange_eq_ok answered
    rw [Event.ofPast_concat, ← ih]

/-- A batch that shares the steps of a stage reaches the stage. -/
theorem Records.shared {count : Nat} {other : BatchTemplate}
    (records : Records b dispatch clock opening world template stage)
    (le : stage.past.length ≤ count) (shares : SharesSteps count template other) :
    Records b dispatch clock opening world other stage :=
  records.congr shares.1 fun k earlier => shares.2 k (Nat.lt_of_lt_of_le earlier le)

/-- Every run of every batch follows the protocol, whatever the dispatcher answers and however it
fails. -/
theorem followsProtocol_runBatch (b : Builder) (dispatch : Request → τ → Outcome Response × τ)
    (clock : τ → Binary64 × τ) (opening : Request) (world : τ) (template : BatchTemplate) :
    FollowsProtocol b dispatch clock opening world template where
  unopened e failed other := by
    rw [recordedRun, Stage.runBatch_eq, failed, Action.run_lift_error_bind]
  seen stage records := records.events_eq
  made stage records k request response made := by
    obtain ⟨earlier, asked, state, before, take, asks, built, answered⟩ := records.exists_step made
    obtain ⟨after, dispatched, -⟩ := Recorder.of_run_exchange_eq_ok answered
    exact ⟨earlier, asked, after, before, take, asks, built, dispatched⟩
  unbuilt stage records asked e asks unbuilt other shares := by
    have reached := records.shared (Nat.le_succ _) shares
    have asks' := (shares.2 _ (Nat.lt_succ_self _)).trans asks
    rw [← records.events_eq]
    exact reached.run_of_stops (.unbuilt asks' unbuilt)
  unanswered stage records asked request e after asks built failed other shares := by
    have reached := records.shared (Nat.le_succ _) shares
    have asks' := (shares.2 _ (Nat.lt_succ_self _)).trans asks
    rw [← records.events_eq, ← shares.1]
    exact reached.run_of_stops (.unanswered asks' built (Recorder.run_exchange_error failed))
  unrecorded stage records asked request response e after asks built answered failed other
      shares := by
    have reached := records.shared (Nat.le_succ _) shares
    have asks' := (shares.2 _ (Nat.lt_succ_self _)).trans asks
    rw [Event.ofPast_concat, ← records.events_eq, ← shares.1]
    exact reached.run_of_stops
      (.unrecorded asks' built (Recorder.run_exchange_ok answered) failed)
  complete stage records all noTemplate := by
    have run := records.run_of_stops (.complete all)
    rw [Stage.response, noTemplate] at run
    rw [← records.events_eq, recordedRun, run]
    simp only [History.toValue, History.after, List.map_map, Function.comp_def]
  stops := by
    cases opened : (History.after opening []).document with
    | error e => exact .inl ⟨e, rfl⟩
    | ok document =>
      obtain ⟨last, outcome, state, reached, stops⟩ := (Stage.Reached.start opened).exists_stops
      exact .inr ⟨last, outcome, state, reached, stops, reached.run_of_stops stops⟩

end

end Stencil
