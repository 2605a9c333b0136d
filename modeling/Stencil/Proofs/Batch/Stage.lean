import Stencil.Batch.Run
import Stencil.Proofs.Outcome

/-!
# Stages of a batch

A run is at a stage when some of its steps are complete: it has made exchanges, it has the document
for the next step, and the outside is in some state. The whole run is what remains to be run at any
stage that it reaches, and it stops at one of them, with its response or with the failure of the
step at hand.
-/

namespace Stencil

namespace Action

variable {σ α β : Type} {first : Action σ α} {next : α → Action σ β} {s s' : σ}

/-- After a result the next action runs from the state that the first one left. -/
theorem run_bind_ok {a : α} (h : first.run.run s = (.ok a, s')) :
    (first >>= next).run.run s = (next a).run.run s' := by
  rw [ExceptT.run_bind, StateT.run_bind, h]
  rfl

/-- After a failure the state stays as the first action left it. -/
theorem run_bind_error {e : Failure} (h : first.run.run s = (.error e, s')) :
    (first >>= next).run.run s = (.error e, s') := by
  rw [ExceptT.run_bind, StateT.run_bind, h]
  rfl

/-- After an outcome that is a result the next action runs. -/
theorem lift_ok_bind (a : α) : (lift (.ok a) >>= next : Action σ β) = next a := rfl

/-- An outcome that is a failure ends an action where it is. -/
theorem run_lift_error_bind (e : Failure) (s : σ) :
    (lift (.error e) >>= next : Action σ β).run.run s = (.error e, s) := rfl

/-- Reading the state goes on with it. -/
theorem run_get_bind {next : σ → Action σ β} :
    (get >>= next : Action σ β).run.run s = (next s).run.run s := rfl

/-- Setting the state goes on from the new one. -/
theorem run_set_bind {next : PUnit → Action σ β} :
    (set s' >>= next : Action σ β).run.run s = (next ⟨⟩).run.run s' := rfl

/-- Changing the state goes on from the changed one. -/
theorem run_modify_bind (change : σ → σ) {next : PUnit → Action σ β} :
    (modify change >>= next : Action σ β).run.run s = (next ⟨⟩).run.run (change s) := rfl

end Action

/-- The history of a batch after exchanges of requests and responses. -/
def History.after (opening : Request) (past : List (Request × Response)) : History :=
  { opening, requests := past.map Prod.fst, responses := past.map Prod.snd }

/-- One more exchange is recorded. -/
theorem History.record_after (opening : Request) (past : List (Request × Response))
    (request : Request) (response : Response) :
    (after opening past).record request response =
      after opening (past ++ [(request, response)]) := by
  simp [after, record]

variable {σ : Type}

/-- The exchange of a step: its request is announced and sent, and its response is passed on with
the seconds that it took. -/
def Gateway.exchange (gateway : Gateway σ) (index total : Nat) (request : Request) :
    Action σ Response := do
  gateway.onRequest index total request
  let start ← gateway.now
  let response ← gateway.dispatch request
  let stop ← gateway.now
  gateway.onResponse index total response (stop.sub start)
  return response

/-- A stage of a run. -/
structure Stage (σ : Type) where
  /-- The exchanges made so far, in order. -/
  past : List (Request × Response)
  /-- The document that the next step is built from. -/
  document : Value
  /-- The state outside. -/
  state : σ

namespace Stage

section

variable (b : Builder) (gateway : Gateway σ) (opening : Request) (template : BatchTemplate)

/-- The stages that a run from a state reaches: first that of no exchange, and from each stage the
one after the next step, if that step is built, answered and recorded. -/
inductive Reached (s : σ) : Stage σ → Prop where
  /-- The opening request has become a document. -/
  | start {document : Value} (recorded : (History.after opening []).document = .ok document) :
    Reached s ⟨[], document, s⟩
  /-- One more step is complete. -/
  | step {stage : Stage σ} {asked : RequestTemplate} {request : Request} {response : Response}
    {state : σ} {document : Value} (before : Reached s stage)
    (asks : template.requests[stage.past.length]? = some asked)
    (built : b.buildRequest asked stage.document = .ok request)
    (answered : (gateway.exchange stage.past.length template.requests.length
      request).run.run stage.state = (.ok response, state))
    (recorded : (History.after opening (stage.past ++ [(request, response)])).document =
      .ok document) :
    Reached s ⟨stage.past ++ [(request, response)], document, state⟩

/-- The response of a batch from its last document and its history. -/
def response (last : Value × History) : Outcome Response :=
  match template.response with
  | some response => b.buildResponse response last.1
  | none => Except.ok { body := last.2.toValue }

/-- The ways in which a run stops at a stage, with the outcome and the state outside. -/
inductive Stops (stage : Stage σ) : Outcome Response → σ → Prop where
  /-- All steps are complete. -/
  | complete (all : stage.past.length = template.requests.length) :
    Stops stage (response b template (stage.document, History.after opening stage.past)) stage.state
  /-- The next request cannot be built. -/
  | unbuilt {asked : RequestTemplate} {e : Failure}
    (asks : template.requests[stage.past.length]? = some asked)
    (unbuilt : b.buildRequest asked stage.document = .error e) :
    Stops stage (.error e) stage.state
  /-- The next request gets no response. -/
  | unanswered {asked : RequestTemplate} {request : Request} {e : Failure} {state : σ}
    (asks : template.requests[stage.past.length]? = some asked)
    (built : b.buildRequest asked stage.document = .ok request)
    (unanswered : (gateway.exchange stage.past.length template.requests.length
      request).run.run stage.state = (.error e, state)) :
    Stops stage (.error e) state
  /-- The next exchange cannot be added to the document. -/
  | unrecorded {asked : RequestTemplate} {request : Request} {response : Response} {e : Failure}
    {state : σ} (asks : template.requests[stage.past.length]? = some asked)
    (built : b.buildRequest asked stage.document = .ok request)
    (answered : (gateway.exchange stage.past.length template.requests.length
      request).run.run stage.state = (.ok response, state))
    (unrecorded : (History.after opening (stage.past ++ [(request, response)])).document =
      .error e) :
    Stops stage (.error e) state

/-- What remains to be run after exchanges, from the document for the next step. -/
def rest (past : List (Request × Response)) (document : Value) : Action σ Response :=
  b.runSteps gateway template.requests.length (template.requests.drop past.length) past.length
    document (History.after opening past) >>= fun last => Action.lift (response b template last)

end

variable {b : Builder} {gateway : Gateway σ} {opening : Request} {template : BatchTemplate}

/-- A step builds a request, exchanges it, and goes on from the document of the longer history. -/
theorem rest_eq {past : List (Request × Response)} {document : Value} {asked : RequestTemplate}
    (asks : template.requests[past.length]? = some asked) :
    rest b gateway opening template past document = (do
      let request ← Action.lift (b.buildRequest asked document)
      let response ← gateway.exchange past.length template.requests.length request
      let document ← Action.lift (History.after opening (past ++ [(request, response)])).document
      rest b gateway opening template (past ++ [(request, response)]) document) := by
  obtain ⟨inside, rfl⟩ := List.getElem?_eq_some_iff.mp asks
  rw [rest, List.drop_eq_getElem_cons inside, Builder.runSteps]
  simp only [Builder.runStep, Gateway.exchange, rest, bind_assoc, pure_bind, History.record_after,
    List.length_append, List.length_cons, List.length_nil, Nat.zero_add]

/-- A run turns the opening request into a document, from which it goes on. -/
theorem runBatch_eq : b.runBatch gateway opening template =
    (Action.lift (History.after opening []).document >>= rest b gateway opening template []) := by
  unfold Builder.runBatch rest response
  cases template.response <;> rfl

variable {s : σ} {stage : Stage σ}

/-- A run is what remains to be run at any stage that it reaches. -/
theorem Reached.run_eq (reached : Reached b gateway opening template s stage) :
    (b.runBatch gateway opening template).run.run s =
      (rest b gateway opening template stage.past stage.document).run.run stage.state := by
  induction reached with
  | start recorded => rw [runBatch_eq, recorded, Action.lift_ok_bind]
  | step before asks built answered recorded ih =>
    rw [ih, rest_eq asks, built, Action.lift_ok_bind, Action.run_bind_ok answered, recorded,
      Action.lift_ok_bind]

/-- What remains to be run where a run stops gives the outcome of the run. -/
theorem Stops.run_rest {outcome : Outcome Response} {state : σ}
    (stops : Stops b gateway opening template stage outcome state) :
    (rest b gateway opening template stage.past stage.document).run.run stage.state =
      (outcome, state) := by
  cases stops with
  | complete all =>
    rw [rest, all, List.drop_length, Builder.runSteps, pure_bind, Action.run_lift]
  | unbuilt asks unbuilt => rw [rest_eq asks, unbuilt, Action.run_lift_error_bind]
  | unanswered asks built unanswered =>
    rw [rest_eq asks, built, Action.lift_ok_bind, Action.run_bind_error unanswered]
  | unrecorded asks built answered unrecorded =>
    rw [rest_eq asks, built, Action.lift_ok_bind, Action.run_bind_ok answered, unrecorded,
      Action.run_lift_error_bind]

/-- A run has the outcome with which it stops at a stage that it reaches. -/
theorem Reached.run_of_stops (reached : Reached b gateway opening template s stage)
    {outcome : Outcome Response} {state : σ}
    (stops : Stops b gateway opening template stage outcome state) :
    (b.runBatch gateway opening template).run.run s = (outcome, state) :=
  reached.run_eq.trans stops.run_rest

/-- The document of a stage is that of the history of its exchanges. -/
theorem Reached.recorded (reached : Reached b gateway opening template s stage) :
    (History.after opening stage.past).document = .ok stage.document := by
  cases reached with
  | start recorded => exact recorded
  | step _ _ _ _ recorded => exact recorded

/-- No stage has more exchanges than there are requests. -/
theorem Reached.length_le (reached : Reached b gateway opening template s stage) :
    stage.past.length ≤ template.requests.length := by
  cases reached with
  | start => exact Nat.zero_le _
  | step before asks =>
    have inside := (List.getElem?_eq_some_iff.mp asks).1
    rw [List.length_append]
    exact inside

/-- From a stage that it reaches a run stops there or reaches a stage of one more exchange. -/
theorem Reached.stops_or_step (reached : Reached b gateway opening template s stage) :
    (∃ outcome state, Stops b gateway opening template stage outcome state) ∨
    ∃ next, Reached b gateway opening template s next ∧
      next.past.length = stage.past.length + 1 := by
  rcases Nat.eq_or_lt_of_le reached.length_le with all | more
  · exact .inl ⟨_, _, .complete all⟩
  · have asks := List.getElem?_eq_getElem more
    cases built : b.buildRequest template.requests[stage.past.length] stage.document with
    | error e => exact .inl ⟨_, _, .unbuilt asks built⟩
    | ok request =>
      cases exchanged : (gateway.exchange stage.past.length template.requests.length
          request).run.run stage.state with
      | mk result state =>
        cases result with
        | error e => exact .inl ⟨_, _, .unanswered asks built exchanged⟩
        | ok response =>
          cases recorded :
              (History.after opening (stage.past ++ [(request, response)])).document with
          | error e => exact .inl ⟨_, _, .unrecorded asks built exchanged recorded⟩
          | ok document =>
            exact .inr ⟨_, reached.step asks built exchanged recorded, List.length_append⟩

/-- Every run stops: from each stage that it reaches it goes on to one where it stops. -/
theorem Reached.exists_stops (reached : Reached b gateway opening template s stage) :
    ∃ last outcome state, Reached b gateway opening template s last ∧
      Stops b gateway opening template last outcome state := by
  -- by induction on the number of requests that are left
  induction left : template.requests.length - stage.past.length generalizing stage with
  | zero =>
    have all : stage.past.length = template.requests.length := by
      have most := reached.length_le
      omega
    exact ⟨stage, _, _, reached, .complete all⟩
  | succ left ih =>
    rcases reached.stops_or_step with ⟨outcome, state, stops⟩ | ⟨next, further, one⟩
    · exact ⟨stage, outcome, state, reached, stops⟩
    · exact ih further (by omega)

/-- A stage depends only on the number of requests and on the templates of its own steps. -/
theorem Reached.congr {other : BatchTemplate}
    (same : other.requests.length = template.requests.length)
    (reached : Reached b gateway opening template s stage)
    (agree : ∀ k < stage.past.length, other.requests[k]? = template.requests[k]?) :
    Reached b gateway opening other s stage := by
  -- the number of requests is announced with each of them, so it has to be the same
  induction reached with
  | start recorded => exact .start recorded
  | @step stage _ _ _ _ _ _ asks built answered recorded ih =>
    rw [List.length_append, List.length_singleton] at agree
    have before := ih fun k earlier => agree k (Nat.lt_succ_of_lt earlier)
    have asks' := (agree stage.past.length (Nat.lt_succ_self _)).trans asks
    rw [← same] at answered
    exact before.step asks' built answered recorded

/-- The number of exchanges determines the stage. -/
theorem Reached.unique (reached : Reached b gateway opening template s stage) {other : Stage σ}
    (reached' : Reached b gateway opening template s other)
    (same : stage.past.length = other.past.length) : stage = other := by
  induction reached generalizing other with
  | start recorded =>
    cases reached' with
    | start recorded' =>
      cases recorded.symm.trans recorded'
      rfl
    | step => simp at same
  | step before asks built answered recorded ih =>
    cases reached' with
    | start => simp at same
    | step before' asks' built' answered' recorded' =>
      simp only [List.length_append, List.length_singleton, Nat.add_right_cancel_iff] at same
      obtain rfl := ih before' same
      cases asks.symm.trans asks'
      cases built.symm.trans built'
      cases answered.symm.trans answered'
      cases recorded.symm.trans recorded'
      rfl

/-- A run that reaches a stage has reached a stage of each smaller number of exchanges. -/
theorem Reached.exists_take (reached : Reached b gateway opening template s stage) {k : Nat}
    (le : k ≤ stage.past.length) :
    ∃ earlier, Reached b gateway opening template s earlier ∧
      earlier.past = stage.past.take k := by
  induction reached with
  | start recorded => exact ⟨_, .start recorded, List.take_nil.symm⟩
  | @step stage _ request response _ _ before asks built answered recorded ih =>
    rw [List.length_append, List.length_singleton] at le
    rcases Nat.le_succ_iff.mp le with earlier | rfl
    · obtain ⟨found, reached, take⟩ := ih earlier
      exact ⟨found, reached, by rw [take, List.take_append_of_le_length earlier]⟩
    · refine ⟨_, before.step asks built answered recorded, ?_⟩
      exact (List.take_of_length_le (Nat.le_of_eq List.length_append)).symm

/-- Each exchange of a stage was made from an earlier stage, with a request built there. -/
theorem Reached.exists_step (reached : Reached b gateway opening template s stage) {k : Nat}
    {request : Request} {response : Response} (made : stage.past[k]? = some (request, response)) :
    ∃ earlier asked state, Reached b gateway opening template s earlier ∧
      earlier.past = stage.past.take k ∧
      template.requests[k]? = some asked ∧
      b.buildRequest asked earlier.document = .ok request ∧
      (gateway.exchange k template.requests.length request).run.run earlier.state =
        (.ok response, state) := by
  induction reached with
  | start => cases made
  | @step stage asked _ _ state _ before asks built answered recorded ih =>
    rcases Nat.lt_or_ge k stage.past.length with earlier | last
    · rw [List.getElem?_append_left earlier] at made
      rw [List.take_append_of_le_length (Nat.le_of_lt earlier)]
      exact ih made
    · have inside := (List.getElem?_eq_some_iff.mp made).1
      rw [List.length_append, List.length_singleton] at inside
      obtain rfl : k = stage.past.length := by omega
      rw [List.getElem?_concat_length] at made
      cases made
      rw [List.take_left]
      exact ⟨stage, asked, state, before, rfl, asks, built, answered⟩

/-- Of two stages of a run the one with fewer exchanges has made the first of the other's. -/
theorem Reached.past_eq_take (reached : Reached b gateway opening template s stage)
    {later : Stage σ} (reached' : Reached b gateway opening template s later)
    (le : stage.past.length ≤ later.past.length) :
    stage.past = later.past.take stage.past.length := by
  obtain ⟨found, reached'', take⟩ := reached'.exists_take le
  have same : stage.past.length = found.past.length := by
    rw [take, List.length_take, Nat.min_eq_left le]
  obtain rfl := reached.unique reached'' same
  exact take

end Stage

end Stencil
