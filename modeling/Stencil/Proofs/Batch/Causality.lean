import Stencil.Proofs.Batch.Past
import Stencil.Proofs.Batch.Protocol

/-!
# Causality of a batch

What a run sends depends on its past only: on the opening request, on the templates up to the
request at hand, and on the responses received before. Two runs that agree so far, with whatever
dispatchers, clocks, later templates and response templates, send the same request next, or fail to
build it in the same way.
-/

namespace Stencil

namespace Stage

section

variable {σ : Type} (b : Builder) (gateway : Gateway σ) (template : BatchTemplate)
variable (stage : Stage σ)

/-- The request that is built at a stage, if the next template gives one. -/
def next? : Option Request := do
  let asked ← template.requests[stage.past.length]?
  (b.buildRequest asked stage.document).toOption

/-- The response to the request that is built at a stage, if there are both. -/
def reply? : Option Response := do
  let request ← stage.next? b template
  let exchange := gateway.exchange stage.past.length template.requests.length request
  (exchange.run.run stage.state).1.toOption

end

variable {σ σ' : Type} {b : Builder} {gateway : Gateway σ} {gateway' : Gateway σ'}
variable {opening : Request} {template other : BatchTemplate} {s : σ} {s' : σ'} {stage : Stage σ}

/-- A request is built at a stage exactly when the next template gives it for the document. -/
theorem next?_eq_some_iff {request : Request} : stage.next? b template = some request ↔
    ∃ asked, template.requests[stage.past.length]? = some asked ∧
      b.buildRequest asked stage.document = .ok request := by
  simp only [next?, Option.bind_eq_bind, Option.bind_eq_some_iff,
    Outcome.toOption_eq_some_iff]

/-- A response is received at a stage exactly when the request that is built there is answered. -/
theorem reply?_eq_some_iff {response : Response} :
    stage.reply? b gateway template = some response ↔
      ∃ request state, stage.next? b template = some request ∧
        (gateway.exchange stage.past.length template.requests.length request).run.run stage.state =
          (.ok response, state) := by
  simp only [reply?, Option.bind_eq_bind, Option.bind_eq_some_iff,
    Outcome.toOption_eq_some_iff]
  constructor
  · rintro ⟨request, next, answered⟩
    exact ⟨request, _, next, Prod.ext answered rfl⟩
  · rintro ⟨request, state, next, answered⟩
    exact ⟨request, next, by rw [answered]⟩

/-- The request that is built at a stage depends on its past, its document and the next template. -/
theorem next?_congr (state : σ')
    (shared : other.requests[stage.past.length]? = template.requests[stage.past.length]?) :
    (⟨stage.past, stage.document, state⟩ : Stage σ').next? b other = stage.next? b template := by
  simp only [next?, shared]

/-- A run that reaches any stage has turned its opening request into a document. -/
theorem Reached.opened (reached : Reached b gateway opening template s stage) :
    ∃ document, (History.after opening []).document = .ok document := by
  induction reached with
  | start recorded => exact ⟨_, recorded⟩
  | step _ _ _ _ _ ih => exact ih

/-- No stage that a run reaches has more exchanges than the one where the run stops. -/
theorem Stops.length_le {last : Stage σ} {outcome : Outcome Response} {state : σ}
    (stops : Stops b gateway opening template last outcome state)
    (reached : Reached b gateway opening template s last)
    (reached' : Reached b gateway opening template s stage) :
    stage.past.length ≤ last.past.length := by
  refine Nat.le_of_not_lt fun beyond => ?_
  obtain ⟨after, further, take⟩ := reached'.exists_take beyond
  have length : after.past.length = last.past.length + 1 := by
    rw [take, List.length_take]
    omega
  -- the step beyond the last stage is one that cannot be made there
  cases further with
  | start => cases length
  | step before asks built answered recorded =>
    rw [List.length_append, List.length_singleton] at length
    obtain rfl := before.unique reached (Nat.succ.inj length)
    cases stops with
    | complete all =>
      rw [List.getElem?_eq_none (Nat.le_of_eq all.symm)] at asks
      cases asks
    | unbuilt asks' unbuilt =>
      cases asks.symm.trans asks'
      cases built.symm.trans unbuilt
    | unanswered asks' built' unanswered =>
      cases asks.symm.trans asks'
      cases built.symm.trans built'
      cases answered.symm.trans unanswered
    | unrecorded asks' built' answered' unrecorded =>
      cases asks.symm.trans asks'
      cases built.symm.trans built'
      cases answered.symm.trans answered'
      cases recorded.symm.trans unrecorded

/-- Each exchange of a stage is of the request and the response of an earlier stage. -/
theorem Reached.exists_earlier (reached : Reached b gateway opening template s stage) {k : Nat}
    {exchange : Request × Response} (made : stage.past[k]? = some exchange) :
    ∃ earlier, Reached b gateway opening template s earlier ∧ earlier.past.length = k ∧
      earlier.next? b template = some exchange.1 ∧
      earlier.reply? b gateway template = some exchange.2 := by
  obtain ⟨earlier, asked, state, before, take, asks, built, answered⟩ := reached.exists_step made
  have inside := (List.getElem?_eq_some_iff.mp made).1
  have length : earlier.past.length = k := by
    rw [take, List.length_take]
    omega
  subst length
  have next := next?_eq_some_iff.mpr ⟨asked, asks, built⟩
  exact ⟨earlier, before, rfl, next, reply?_eq_some_iff.mpr ⟨_, state, next, answered⟩⟩

/-- What a run has made at the stages that it reaches is a list: of the exchanges of its last stage,
and of what is made at the last stage itself. -/
theorem getElem?_log_iff {α : Type} {made? : Stage σ → Option α} {part : Request × Response → α}
    {last : Stage σ} (reached : Reached b gateway opening template s last)
    (longest : ∀ stage, Reached b gateway opening template s stage →
      stage.past.length ≤ last.past.length)
    (earlier : ∀ k exchange, last.past[k]? = some exchange →
      ∃ stage, Reached b gateway opening template s stage ∧ stage.past.length = k ∧
        made? stage = some (part exchange)) {k : Nat} {a : α} :
    (last.past.map part ++ (made? last).toList)[k]? = some a ↔
      ∃ stage, Reached b gateway opening template s stage ∧ stage.past.length = k ∧
        made? stage = some a := by
  -- a stage is determined by the number of its exchanges
  have only {stage stage' : Stage σ} (h : Reached b gateway opening template s stage)
      (h' : Reached b gateway opening template s stage') (same : stage.past.length = k)
      (same' : stage'.past.length = k) : stage = stage' := h.unique h' (same.trans same'.symm)
  rcases Nat.lt_trichotomy k last.past.length with inside | rfl | beyond
  · obtain ⟨stage, reached', length, found⟩ :=
      earlier k _ (List.getElem?_eq_getElem inside)
    have value : (last.past.map part ++ (made? last).toList)[k]? = made? stage := by
      rw [List.getElem?_append_left (by rwa [List.length_map]), List.getElem?_map,
        List.getElem?_eq_getElem inside, found]
      rfl
    rw [value]
    constructor
    · exact fun h => ⟨stage, reached', length, h⟩
    · rintro ⟨stage', reached'', length', h⟩
      rwa [only reached' reached'' length length']
  · have value : (last.past.map part ++ (made? last).toList)[last.past.length]? = made? last := by
      rw [List.getElem?_append_right (Nat.le_of_eq (List.length_map _)), List.length_map,
        Nat.sub_self]
      cases made? last <;> rfl
    rw [value]
    constructor
    · exact fun h => ⟨last, reached, rfl, h⟩
    · rintro ⟨stage', reached', length', h⟩
      rwa [only reached reached' rfl length']
  · have value : (last.past.map part ++ (made? last).toList)[k]? = none := by
      rw [List.getElem?_eq_none_iff, List.length_append, List.length_map]
      cases made? last <;> simp <;> omega
    rw [value]
    constructor
    · intro h
      cases h
    · rintro ⟨stage', reached', length', -⟩
      have most := longest stage' reached'
      omega

/-- A stage is reached with other surroundings too, as long as these answer each request of its past
in the same way. What has to be known of the two states outside is a relation that every exchange
keeps. -/
theorem Reached.transport (R : σ → σ' → Prop) {count : Nat} (start : R s s')
    (shared : ∀ k < count, other.requests[k]? = template.requests[k]?)
    (agree : ∀ past document state state' request response after, past.length < count →
      Reached b gateway opening template s ⟨past, document, state⟩ →
      Reached b gateway' opening other s' ⟨past, document, state'⟩ → R state state' →
      (⟨past, document, state⟩ : Stage σ).next? b template = some request →
      (gateway.exchange past.length template.requests.length request).run.run state =
        (.ok response, after) →
      ∃ after', (gateway'.exchange past.length other.requests.length request).run.run state' =
        (.ok response, after') ∧ R after after')
    (reached : Reached b gateway opening template s stage) (le : stage.past.length ≤ count) :
    ∃ state', Reached b gateway' opening other s' ⟨stage.past, stage.document, state'⟩ ∧
      R stage.state state' := by
  induction reached with
  | start recorded => exact ⟨s', .start recorded, start⟩
  | @step stage asked request response after _ before asks built answered recorded ih =>
    rw [List.length_append, List.length_singleton] at le
    obtain ⟨state', before', related⟩ := ih (Nat.le_of_succ_le le)
    have asks' := (shared stage.past.length le).trans asks
    have next := next?_eq_some_iff.mpr ⟨asked, asks, built⟩
    obtain ⟨after', answered', related'⟩ :=
      agree _ _ _ _ _ _ _ le before before' related next answered
    exact ⟨after', before'.step asks' built answered' recorded, related'⟩

end Stage

namespace Event

/-- The request that an event announces. -/
def announced? : Event → Option Request
  | .announced _ _ request => some request
  | _ => none

/-- The request that an event sends. -/
def sent? : Event → Option Request
  | .sent request => some request
  | _ => none

/-- The response that an event passes on. -/
def response? : Event → Option Response
  | .answered _ _ response => some response
  | _ => none

end Event

namespace Recorder

variable {τ : Type}

/-- The requests that have been announced, in order. -/
def announced (recorder : Recorder τ) : List Request :=
  recorder.events.filterMap Event.announced?

/-- The requests that have been sent, in order. -/
def sent (recorder : Recorder τ) : List Request := recorder.events.filterMap Event.sent?

/-- The responses that have been received, in order. -/
def responses (recorder : Recorder τ) : List Response :=
  recorder.events.filterMap Event.response?

/-- The requests seen so far, each of them both announced and sent, and the responses. -/
def Shows (recorder : Recorder τ) (requests : List Request) (responses : List Response) : Prop :=
  recorder.announced = requests ∧ recorder.sent = requests ∧ recorder.responses = responses

variable {recorder : Recorder τ} {requests : List Request} {responses : List Response} {world : τ}
variable {total index : Nat} {request : Request}

/-- An exchange adds its request and its response. -/
theorem Shows.exchange (shows : recorder.Shows requests responses) (response : Response) :
    Shows ⟨world, recorder.events ++ Event.ofExchange total index (request, response)⟩
      (requests ++ [request]) (responses ++ [response]) := by
  obtain ⟨announced, sent, received⟩ := shows
  refine ⟨?_, ?_, ?_⟩
  · rw [← announced]
    exact List.filterMap_append
  · rw [← sent]
    exact List.filterMap_append
  · rw [← received]
    exact List.filterMap_append

/-- A request without a response is added alone. -/
theorem Shows.unanswered (shows : recorder.Shows requests responses) :
    Shows ⟨world, recorder.events ++ [.announced index total request, .sent request]⟩
      (requests ++ [request]) responses := by
  obtain ⟨announced, sent, received⟩ := shows
  refine ⟨?_, ?_, ?_⟩
  · rw [← announced]
    exact List.filterMap_append
  · rw [← sent]
    exact List.filterMap_append
  · rw [← received]
    exact List.filterMap_append.trans (List.append_nil _)

variable {dispatch : Request → τ → Outcome Response × τ} {clock : τ → Binary64 × τ}

/-- An exchange that is not answered was refused by the dispatcher. -/
theorem of_run_exchange_eq_error {e : Failure} {after : Recorder τ}
    (h : ((recording dispatch clock).exchange index total request).run.run recorder =
      (.error e, after)) :
    ∃ world, dispatch request (clock recorder.world).2 = (.error e, world) ∧
      after = ⟨world, recorder.events ++ [.announced index total request, .sent request]⟩ := by
  cases dispatched : dispatch request (clock recorder.world).2 with
  | mk outcome world =>
    cases outcome with
    | ok response =>
      rw [run_exchange_ok dispatched] at h
      cases h
    | error e' =>
      rw [run_exchange_error dispatched] at h
      cases h
      exact ⟨world, rfl, rfl⟩

end Recorder

variable {τ τ' : Type} {b : Builder} {dispatch : Request → τ → Outcome Response × τ}
variable {dispatch' : Request → τ' → Outcome Response × τ'} {clock : τ → Binary64 × τ}
variable {clock' : τ' → Binary64 × τ'} {opening : Request} {world : τ} {world' : τ'}
variable {template other : BatchTemplate} {last stage : Stage (Recorder τ)}

/-- At every stage the requests and the responses of its exchanges have been seen. -/
theorem Records.shows (records : Records b dispatch clock opening world template stage) :
    stage.state.Shows (stage.past.map Prod.fst) (stage.past.map Prod.snd) := by
  induction records with
  | start => exact ⟨rfl, rfl, rfl⟩
  | step before asks built answered recorded ih =>
    obtain ⟨after, -, rfl⟩ := Recorder.of_run_exchange_eq_ok answered
    rw [List.map_append, List.map_append]
    exact ih.exchange _

/-- Where a run stops, what is made at the last stage has been seen too. -/
theorem Records.shows_of_stops {outcome : Outcome Response} {state : Recorder τ}
    (records : Records b dispatch clock opening world template last)
    (stops : last.Stops b (Recorder.recording dispatch clock) opening template outcome state) :
    state.Shows (last.past.map Prod.fst ++ (last.next? b template).toList)
      (last.past.map Prod.snd ++
        (last.reply? b (Recorder.recording dispatch clock) template).toList) := by
  have shows := records.shows
  cases stops with
  | complete all =>
    have next : last.next? b template = none := by
      simp [Stage.next?, List.getElem?_eq_none (Nat.le_of_eq all.symm)]
    simpa [Stage.reply?, next] using shows
  | unbuilt asks unbuilt =>
    have next : last.next? b template = none := by
      simp [Stage.next?, asks, unbuilt, Except.toOption]
    simpa [Stage.reply?, next] using shows
  | unanswered asks built unanswered =>
    have next := Stage.next?_eq_some_iff.mpr ⟨_, asks, built⟩
    have reply : last.reply? b (Recorder.recording dispatch clock) template = none := by
      simp [Stage.reply?, next, unanswered, Except.toOption]
    obtain ⟨world, -, rfl⟩ := Recorder.of_run_exchange_eq_error unanswered
    rw [next, reply, Option.toList_none, List.append_nil]
    exact shows.unanswered
  | unrecorded asks built answered unrecorded =>
    have next := Stage.next?_eq_some_iff.mpr ⟨_, asks, built⟩
    have reply := Stage.reply?_eq_some_iff.mpr ⟨_, _, next, answered⟩
    obtain ⟨world, -, rfl⟩ := Recorder.of_run_exchange_eq_ok answered
    rw [next, reply]
    exact shows.exchange _

/-- What is seen of a run as a whole: at each stage that it reaches the request that is built there
has been announced and sent, and the response to it has been received. -/
theorem exists_shows_recordedRun (b : Builder) (dispatch : Request → τ → Outcome Response × τ)
    (clock : τ → Binary64 × τ) (opening : Request) (world : τ) (template : BatchTemplate) :
    ∃ requests responses,
      (recordedRun b dispatch clock opening world template).2.Shows requests responses ∧
      (∀ k request, requests[k]? = some request ↔
        ∃ stage, Records b dispatch clock opening world template stage ∧ stage.past.length = k ∧
          stage.next? b template = some request) ∧
      ∀ k response, responses[k]? = some response ↔
        ∃ stage, Records b dispatch clock opening world template stage ∧ stage.past.length = k ∧
          stage.reply? b (Recorder.recording dispatch clock) template = some response := by
  cases opened : (History.after opening []).document with
  | error e =>
    have run : recordedRun b dispatch clock opening world template = (.error e, ⟨world, []⟩) := by
      rw [recordedRun, Stage.runBatch_eq, opened, Action.run_lift_error_bind]
    have unreached (stage : Stage (Recorder τ)) :
        ¬ Records b dispatch clock opening world template stage := by
      intro records
      obtain ⟨document, opened'⟩ := records.opened
      cases opened.symm.trans opened'
    refine ⟨[], [], by rw [run]; exact ⟨rfl, rfl, rfl⟩, fun k request => ?_, fun k response => ?_⟩
    · simp [unreached]
    · simp [unreached]
  | ok document =>
    have start : Records b dispatch clock opening world template ⟨[], document, ⟨world, []⟩⟩ :=
      .start opened
    obtain ⟨last, outcome, state, records, stops⟩ := start.exists_stops
    have run : recordedRun b dispatch clock opening world template = (outcome, state) :=
      records.run_of_stops stops
    have longest (stage : Stage (Recorder τ))
        (records' : Records b dispatch clock opening world template stage) :=
      stops.length_le records records'
    refine ⟨_, _, by rw [run]; exact Records.shows_of_stops records stops, fun k request => ?_,
      fun k response => ?_⟩
    · refine Stage.getElem?_log_iff records longest fun k exchange made => ?_
      obtain ⟨earlier, before, length, next, -⟩ := records.exists_earlier made
      exact ⟨earlier, before, length, next⟩
    · refine Stage.getElem?_log_iff records longest fun k exchange made => ?_
      obtain ⟨earlier, before, length, -, reply⟩ := records.exists_earlier made
      exact ⟨earlier, before, length, reply⟩

/-- A request that was sent was built at a stage of the run. -/
theorem getElem?_sent_iff {k : Nat} {request : Request} :
    (recordedRun b dispatch clock opening world template).2.sent[k]? = some request ↔
      ∃ stage, Records b dispatch clock opening world template stage ∧ stage.past.length = k ∧
        stage.next? b template = some request := by
  obtain ⟨requests, responses, ⟨-, sent, -⟩, built, -⟩ :=
    exists_shows_recordedRun b dispatch clock opening world template
  rw [sent, built]

/-- A response that was received answers the request of a stage of the run. -/
theorem getElem?_responses_iff {k : Nat} {response : Response} :
    (recordedRun b dispatch clock opening world template).2.responses[k]? = some response ↔
      ∃ stage, Records b dispatch clock opening world template stage ∧ stage.past.length = k ∧
        stage.reply? b (Recorder.recording dispatch clock) template = some response := by
  obtain ⟨requests, responses, ⟨-, -, received⟩, -, answered⟩ :=
    exists_shows_recordedRun b dispatch clock opening world template
  rw [received, answered]

/-- Every request that is announced is sent at once. -/
theorem announced_eq_sent :
    (recordedRun b dispatch clock opening world template).2.announced =
      (recordedRun b dispatch clock opening world template).2.sent := by
  obtain ⟨requests, responses, ⟨announced, sent, -⟩, -⟩ :=
    exists_shows_recordedRun b dispatch clock opening world template
  rw [announced, sent]

/-- A response that was received is the one to the request that was built there. -/
theorem Records.exchange_eq {request : Request} {response : Response}
    (records : Records b dispatch clock opening world template stage)
    (next : stage.next? b template = some request)
    (received : (recordedRun b dispatch clock opening world template).2.responses[
      stage.past.length]? = some response) :
    ∃ after, ((Recorder.recording dispatch clock).exchange stage.past.length
      template.requests.length request).run.run stage.state = (.ok response, after) := by
  obtain ⟨stage', records', same, reply⟩ := getElem?_responses_iff.mp received
  obtain rfl := records.unique records' same.symm
  obtain ⟨request', after, next', answered⟩ := Stage.reply?_eq_some_iff.mp reply
  cases next.symm.trans next'
  exact ⟨after, answered⟩

section

variable {count : Nat}
variable (shared : ∀ k < count, other.requests[k]? = template.requests[k]?)
variable (agree : ∀ k < count, ∀ response,
  (recordedRun b dispatch clock opening world template).2.responses[k]? = some response →
  (recordedRun b dispatch' clock' opening world' other).2.responses[k]? = some response)

include shared agree

/-- A stage is reached by another run that receives the same responses as far as the stage goes. -/
theorem Records.transport (records : Records b dispatch clock opening world template stage)
    (le : stage.past.length ≤ count) :
    ∃ state, Records b dispatch' clock' opening world' other
      ⟨stage.past, stage.document, state⟩ := by
  suffices carried : ∃ state, Records b dispatch' clock' opening world' other
      ⟨stage.past, stage.document, state⟩ ∧ True from
    carried.imp fun _ reached => reached.1
  refine Stage.Reached.transport (fun _ _ => True) trivial shared ?_ records le
  intro past document state state' request response after inside before before' _ next answered
  have reply := Stage.reply?_eq_some_iff.mpr ⟨request, after, next, answered⟩
  have received := getElem?_responses_iff.mpr ⟨_, before, rfl, reply⟩
  have next' := (Stage.next?_congr state' (shared _ inside)).trans next
  obtain ⟨after', answered'⟩ :=
    Records.exchange_eq before' next' (agree past.length inside response received)
  exact ⟨after', answered', trivial⟩

/-- A request that is sent after the shared responses is sent in the other run too. -/
theorem getElem?_sent_of_agree {k : Nat} {request : Request} (le : k ≤ count)
    (shared' : other.requests[k]? = template.requests[k]?)
    (sent : (recordedRun b dispatch clock opening world template).2.sent[k]? = some request) :
    (recordedRun b dispatch' clock' opening world' other).2.sent[k]? = some request := by
  obtain ⟨stage, records, rfl, next⟩ := getElem?_sent_iff.mp sent
  obtain ⟨state, records'⟩ := Records.transport shared agree records le
  exact getElem?_sent_iff.mpr ⟨_, records', rfl, (Stage.next?_congr state shared').trans next⟩

/-- A run that fails at one of the shared steps, and not because a dispatcher fails, fails in the
same way in the other batch. -/
theorem outcome_eq_of_agree (inside : count < template.requests.length)
    (shared' : other.requests[count]? = template.requests[count]?)
    (few : (recordedRun b dispatch clock opening world template).2.sent.length ≤ count)
    (answers : (recordedRun b dispatch clock opening world template).2.responses.length =
      (recordedRun b dispatch clock opening world template).2.sent.length) :
    (recordedRun b dispatch' clock' opening world' other).1 =
      (recordedRun b dispatch clock opening world template).1 := by
  cases opened : (History.after opening []).document with
  | error e => simp only [recordedRun, Stage.runBatch_eq, opened, Action.run_lift_error_bind]
  | ok document =>
    have start : Records b dispatch clock opening world template ⟨[], document, ⟨world, []⟩⟩ :=
      .start opened
    obtain ⟨last, outcome, state, records, stops⟩ := start.exists_stops
    have run : recordedRun b dispatch clock opening world template = (outcome, state) :=
      records.run_of_stops stops
    have shared'' (k : Nat) (le : k ≤ count) : other.requests[k]? = template.requests[k]? := by
      rcases Nat.eq_or_lt_of_le le with rfl | less
      · exact shared'
      · exact shared k less
    obtain ⟨-, sent, received⟩ := Records.shows_of_stops records stops
    rw [run] at few answers ⊢
    rw [sent, List.length_append, List.length_map] at few answers
    rw [received, List.length_append, List.length_map] at answers
    have le : last.past.length ≤ count := by omega
    obtain ⟨state', records'⟩ := Records.transport shared agree records le
    have shares := shared'' _ le
    cases stops with
    | complete all => omega
    | unbuilt asks unbuilt =>
      rw [recordedRun, records'.run_of_stops (.unbuilt (shares.trans asks) unbuilt)]
    | unanswered asks built unanswered =>
      have next := Stage.next?_eq_some_iff.mpr ⟨_, asks, built⟩
      have reply : last.reply? b (Recorder.recording dispatch clock) template = none := by
        simp [Stage.reply?, next, unanswered, Except.toOption]
      rw [next, reply] at answers
      simp at answers
    | unrecorded asks built answered unrecorded =>
      have next := Stage.next?_eq_some_iff.mpr ⟨_, asks, built⟩
      have reply := Stage.reply?_eq_some_iff.mpr ⟨_, _, next, answered⟩
      have less : last.past.length < count := by
        rw [next, Option.toList_some, List.length_singleton] at few
        exact few
      have received := agree _ less _ (getElem?_responses_iff.mpr ⟨last, records, rfl, reply⟩)
      have next' := (Stage.next?_congr state' shares).trans next
      obtain ⟨after, answered'⟩ := Records.exchange_eq records' next' received
      rw [recordedRun,
        records'.run_of_stops (.unrecorded (shares.trans asks) built answered' unrecorded)]

end

/-- A stage is reached by a batch of more templates with the same dispatcher and clock. -/
theorem Records.extend (records : Records b dispatch clock opening world template stage)
    (more : List RequestTemplate) (response : Option ResponseTemplate) :
    ∃ state, Records b dispatch clock opening world ⟨template.requests ++ more, response⟩
      ⟨stage.past, stage.document, state⟩ := by
  have shared (k : Nat) (inside : k < template.requests.length) :
      (template.requests ++ more)[k]? = template.requests[k]? := List.getElem?_append_left inside
  -- the number of requests is announced with each of them, so only the worlds are the same
  let sameWorld (state state' : Recorder τ) : Prop := state.world = state'.world
  suffices carried : ∃ state, Records b dispatch clock opening world
      ⟨template.requests ++ more, response⟩ ⟨stage.past, stage.document, state⟩ ∧
      sameWorld stage.state state from
    carried.imp fun _ reached => reached.1
  refine Stage.Reached.transport sameWorld rfl shared ?_ records records.length_le
  intro past document state state' request response after _ _ _ same _ answered
  obtain ⟨further, dispatched, rfl⟩ := Recorder.of_run_exchange_eq_ok answered
  rw [show state.world = state'.world from same] at dispatched
  exact ⟨_, Recorder.run_exchange_ok dispatched, rfl⟩

/-- Two runs agree through a request: they announce and send the same requests up to this one, and
if the one fails before without a dispatcher's failure, the other fails in the same way. -/
structure AgreeThrough (i : Nat) (run : Outcome Response × Recorder τ)
    (run' : Outcome Response × Recorder τ') : Prop where
  /-- The same requests are announced. -/
  announced : run'.2.announced.take (i + 1) = run.2.announced.take (i + 1)
  /-- The same requests are sent. -/
  sent : run'.2.sent.take (i + 1) = run.2.sent.take (i + 1)
  /-- If the request is not reached although all requests before are answered, the outcome is the
  same. -/
  unreached : run.2.sent.length ≤ i → run.2.responses.length = run.2.sent.length → run'.1 = run.1

/-- Lists agree in their first items if each of these items is in the other list at its place. -/
theorem take_eq_take_of_getElem? {α : Type} {l l' : List α} {count : Nat}
    (le : ∀ k < count, ∀ a, l[k]? = some a → l'[k]? = some a)
    (ge : ∀ k < count, ∀ a, l'[k]? = some a → l[k]? = some a) : l'.take count = l.take count := by
  refine List.ext_getElem? fun k => Option.ext fun a => ?_
  rcases Nat.lt_or_ge k count with inside | beyond
  · rw [List.getElem?_take_of_lt inside, List.getElem?_take_of_lt inside]
    exact ⟨ge k inside a, le k inside a⟩
  · rw [List.getElem?_take_eq_none beyond, List.getElem?_take_eq_none beyond]

/-- Items at the places of lists with the same first items. -/
theorem getElem?_of_take_eq_take {α : Type} {l l' : List α} {count : Nat}
    (same : l'.take count = l.take count) {k : Nat} (inside : k < count) : l'[k]? = l[k]? := by
  rw [← List.getElem?_take_of_lt inside, same, List.getElem?_take_of_lt inside]

/-- Runs of batches that share their first templates agree through the last of these if their
dispatchers gave the same responses before: it does not matter which templates follow, how the
response is described, and what is answered later. Nor do more templates at the end change what the
same dispatcher is sent before. -/
theorem agreeThrough_of_responses (b : Builder) (opening : Request)
    (dispatch : Request → τ → Outcome Response × τ) (clock : τ → Binary64 × τ) (world : τ)
    (dispatch' : Request → τ' → Outcome Response × τ') (clock' : τ' → Binary64 × τ') (world' : τ')
    (steps rest rest' : List RequestTemplate) (response response' : Option ResponseTemplate)
    (i : Nat) (count : steps.length = i + 1)
    (same : (recordedRun b dispatch' clock' opening world'
        ⟨steps ++ rest', response'⟩).2.responses.take i =
      (recordedRun b dispatch clock opening world ⟨steps ++ rest, response⟩).2.responses.take i) :
    AgreeThrough i (recordedRun b dispatch clock opening world ⟨steps ++ rest, response⟩)
      (recordedRun b dispatch' clock' opening world' ⟨steps ++ rest', response'⟩) ∧
    (recordedRun b dispatch clock opening world ⟨steps, response⟩).2.sent <+:
      (recordedRun b dispatch clock opening world ⟨steps ++ rest, response'⟩).2.sent := by
  have shared (k : Nat) (inside : k < i + 1) : (steps ++ rest')[k]? = (steps ++ rest)[k]? := by
    rw [List.getElem?_append_left (by omega), List.getElem?_append_left (by omega)]
  have received (k : Nat) (inside : k < i) := getElem?_of_take_eq_take same inside
  have sent : (recordedRun b dispatch' clock' opening world'
        ⟨steps ++ rest', response'⟩).2.sent.take (i + 1) =
      (recordedRun b dispatch clock opening world
        ⟨steps ++ rest, response⟩).2.sent.take (i + 1) := by
    refine take_eq_take_of_getElem? (fun k inside request sent => ?_)
      fun k inside request sent => ?_
    · exact getElem?_sent_of_agree (fun k less => shared k (Nat.lt_succ_of_lt less))
        (fun k less response had => (received k less).trans had) (Nat.le_of_lt_succ inside)
        (shared k inside) sent
    · exact getElem?_sent_of_agree (fun k less => (shared k (Nat.lt_succ_of_lt less)).symm)
        (fun k less response had => (received k less).symm.trans had) (Nat.le_of_lt_succ inside)
        (shared k inside).symm sent
  refine ⟨⟨?_, sent, fun few answers => ?_⟩, ?_⟩
  · rwa [announced_eq_sent, announced_eq_sent]
  · refine outcome_eq_of_agree (fun k less => shared k (Nat.lt_succ_of_lt less))
      (fun k less response had => (received k less).trans had) ?_ (shared i (Nat.lt_succ_self i))
      few answers
    rw [List.length_append]
    omega
  · rw [List.prefix_iff_getElem?]
    intro k inside
    obtain ⟨stage, records, length, next⟩ := getElem?_sent_iff.mp (List.getElem?_eq_getElem inside)
    obtain ⟨asked, asks, -⟩ := Stage.next?_eq_some_iff.mp next
    have shares : (steps ++ rest)[stage.past.length]? = steps[stage.past.length]? :=
      List.getElem?_append_left (List.getElem?_eq_some_iff.mp asks).1
    obtain ⟨state, records'⟩ := Records.extend records rest response'
    have next' : (⟨stage.past, stage.document, state⟩ : Stage (Recorder τ)).next? b
        ⟨steps ++ rest, response'⟩ = some (Recorder.sent _)[k] :=
      (Stage.next?_congr state shares).trans next
    exact getElem?_sent_iff.mpr ⟨_, records', length, next'⟩

/-- The first response of a batch that starts without content and asks for an address first. -/
theorem getElem?_responses_zero {dispatch : Request → Unit → Outcome Response × Unit}
    {clock : Unit → Binary64 × Unit} {template : BatchTemplate} {response : Response}
    (asks : template.requests[0]? = some { url := "x" })
    (answers : dispatch { url := some "x" } () = (.ok response, ())) :
    (recordedRun {} dispatch clock {} () template).2.responses[0]? = some response := by
  have built : ({} : Builder).buildRequest { url := "x" } (pastDocument {} []) =
    .ok { url := some "x" } := rfl
  have start := reached_start {} (Recorder.recording dispatch clock) template ⟨(), []⟩
  have next : (⟨[], pastDocument {} [], ⟨(), []⟩⟩ : Stage (Recorder Unit)).next? {} template =
    some { url := some "x" } := Stage.next?_eq_some_iff.mpr ⟨_, asks, built⟩
  refine getElem?_responses_iff.mpr ⟨_, start, rfl, ?_⟩
  exact Stage.reply?_eq_some_iff.mpr ⟨_, _, next, Recorder.run_exchange_ok answers⟩

/-- A dispatcher that fails at the second request and one that answers it are sent the same two
requests. -/
theorem agreeThrough_second_request :
    let answers (_ : Request) (_ : Unit) : Outcome Response × Unit := (.ok {}, ())
    let refuses (request : Request) (_ : Unit) : Outcome Response × Unit :=
      (if request.url = some "y" then Outcome.defect .key else .ok {}, ())
    let clock (_ : Unit) : Binary64 × Unit := (.zero false, ())
    let steps : List RequestTemplate := [{ url := "x" }, { url := "y" }]
    let further : List RequestTemplate := [{ url := "z" }]
    (recordedRun {} refuses clock {} () ⟨steps ++ [], none⟩).2.sent.take 2 =
      (recordedRun {} answers clock {} () ⟨steps ++ further, none⟩).2.sent.take 2 := by
  intro answers refuses clock steps further
  have first : (recordedRun {} answers clock {} () ⟨steps ++ further, none⟩).2.responses[0]? =
    some ⟨none, none, .null⟩ := getElem?_responses_zero rfl rfl
  have first' : (recordedRun {} refuses clock {} () ⟨steps ++ [], none⟩).2.responses[0]? =
    some ⟨none, none, .null⟩ := getElem?_responses_zero rfl rfl
  have same : (recordedRun {} refuses clock {} () ⟨steps ++ [], none⟩).2.responses.take 1 =
      (recordedRun {} answers clock {} () ⟨steps ++ further, none⟩).2.responses.take 1 := by
    rw [List.take_one, List.take_one, List.head?_eq_getElem?, List.head?_eq_getElem?, first,
      first']
  exact (agreeThrough_of_responses {} {} answers clock () refuses clock () steps further []
    none none 1 rfl same).1.sent

end Stencil
