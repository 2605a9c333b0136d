import Stencil.Proofs.Batch.Stage
import Stencil.Proofs.Json.RoundTrip
import Stencil.Proofs.Path.Place

/-!
# What a step sees of the past

A step of a batch is built from a document that was written and read again. Where the messages are
of the kinds that JSON has a form for, nothing is lost on the way: the document is the opening
request with the requests and responses of the steps before, in which only the decimal numbers
without a fraction have become integers. Queries of a place find each of these messages, the same
one at every later step.
-/

namespace Stencil

open Json (integral)
open Stencil.Path (IsBareName placePath)

namespace Builder

variable {v : Value}

/-- A value that can be written becomes a document in which only the decimal numbers without a
fraction have changed. -/
theorem detach_of_write (isJson : Json.IsJson v) {text : String}
    (written : Json.write .spaced v = .ok text) : detach v = .ok (integral v) := by
  obtain ⟨chars, spelled, rfl⟩ := Outcome.exists_of_map_eq_ok written
  rw [detach, written, Outcome.ok_bind, Json.read, String.toList_ofList]
  exact Json.readChars_writeChars isJson spelled

/-- A document comes from a value by such a change only. -/
theorem eq_integral_of_detach (isJson : Json.IsJson v) {document : Value}
    (h : detach v = .ok document) : document = integral v := by
  obtain ⟨text, written, -⟩ := Outcome.exists_of_bind_eq_ok h
  rw [detach_of_write isJson written] at h
  exact (Except.ok.inj h).symm

end Builder

/-- Headers whose names are different texts. -/
def Headers.IsJson (headers : Headers) : Prop :=
  Fields.AreDistinct headers ∧ ∀ header ∈ headers, ∃ name, header.1 = .text name

/-- A request of the kinds of values that JSON has a form for. -/
def Request.IsJson (request : Request) : Prop :=
  request.headers.IsJson ∧ Json.IsJson request.body

/-- A response of the kinds of values that JSON has a form for. -/
def Response.IsJson (response : Response) : Prop :=
  (∀ headers, response.headers = some headers → headers.IsJson) ∧ Json.IsJson response.body

/-- A past of the kinds of values that JSON has a form for. -/
def History.IsJson (opening : Request) (past : List (Request × Response)) : Prop :=
  opening.IsJson ∧ ∀ exchange ∈ past, exchange.1.IsJson ∧ exchange.2.IsJson

/-- Headers of these kinds make a value of these kinds. -/
theorem Headers.isJson_toValue {headers : Headers} (h : headers.IsJson) :
    Json.IsJson headers.toValue := by
  obtain ⟨distinct, named⟩ := h
  refine ⟨?_, Json.holdJson_iff.mpr fun member among => ?_⟩
  · unfold Fields.AreDistinct at distinct ⊢
    rw [List.map_map]
    exact distinct
  · obtain ⟨header, from_headers, rfl⟩ := List.mem_map.mp among
    refine ⟨named header from_headers, Json.areJson_iff.mpr fun item texts => ?_⟩
    obtain ⟨text, -, rfl⟩ := List.mem_map.mp texts
    trivial

/-- A request of these kinds makes a value of these kinds. -/
theorem Request.isJson_toValue {request : Request} (h : request.IsJson) :
    Json.IsJson request.toValue := by
  refine ⟨by simp [Fields.AreDistinct, Key.same_text], ⟨_, rfl⟩, trivial, ⟨_, rfl⟩, ?_, ⟨_, rfl⟩,
    Headers.isJson_toValue h.1, ⟨_, rfl⟩, h.2, trivial⟩
  cases request.url <;> trivial

/-- A response of these kinds makes a value of these kinds. -/
theorem Response.isJson_toValue {response : Response} (h : response.IsJson) :
    Json.IsJson response.toValue := by
  refine ⟨by simp [Fields.AreDistinct, Key.same_text], ⟨_, rfl⟩, ?_, ⟨_, rfl⟩, ?_, ⟨_, rfl⟩, h.2,
    trivial⟩
  · cases response.status <;> trivial
  · cases given : response.headers with
    | none => trivial
    | some headers => exact Headers.isJson_toValue (h.1 headers given)

/-- A past of these kinds makes a value of these kinds. -/
theorem History.isJson_toValue {opening : Request} {past : List (Request × Response)}
    (h : IsJson opening past) : Json.IsJson (after opening past).toValue := by
  refine ⟨by simp [Fields.AreDistinct, Key.same_text], ⟨_, rfl⟩, Request.isJson_toValue h.1,
    ⟨_, rfl⟩, Json.areJson_iff.mpr fun item among => ?_, ⟨_, rfl⟩,
    Json.areJson_iff.mpr fun item among => ?_, trivial⟩
  · obtain ⟨request, requests, rfl⟩ := List.mem_map.mp among
    obtain ⟨exchange, made, rfl⟩ := List.mem_map.mp requests
    exact Request.isJson_toValue (h.2 exchange made).1
  · obtain ⟨response, responses, rfl⟩ := List.mem_map.mp among
    obtain ⟨exchange, made, rfl⟩ := List.mem_map.mp responses
    exact Response.isJson_toValue (h.2 exchange made).2

/-- The opening request and the exchanges of the past as a document. -/
def pastDocument (opening : Request) (past : List (Request × Response)) : Value :=
  .object [
    (.text "original", integral opening.toValue),
    (.text "requests", .list (past.map fun exchange => integral exchange.1.toValue)),
    (.text "responses", .list (past.map fun exchange => integral exchange.2.toValue))]

/-- The document is the value of the history with integers in place of the decimal numbers without a
fraction. -/
theorem pastDocument_eq (opening : Request) (past : List (Request × Response)) :
    pastDocument opening past = integral (History.after opening past).toValue := by
  simp [pastDocument, History.toValue, History.after, integral, Json.integralMembers,
    Json.integralItems_eq_map, Function.comp_def]

/-- The name of a list of messages is a bare name. -/
theorem isBareName_messages : IsBareName "requests" ∧ IsBareName "responses" := by
  refine ⟨⟨⟨'r', "equests".toList, rfl, by decide⟩, by decide, by decide⟩,
    ⟨⟨'r', "esponses".toList, rfl, by decide⟩, by decide, by decide⟩⟩

section

variable (opening : Request) (past : List (Request × Response)) {place : Nat}

/-- Queries of a place find the messages of the past. -/
theorem read_pastDocument (short : Number.isLong place = false) :
    Path.read (pastDocument opening past) (placePath "requests" place) =
      .ok ((past[place]?.map fun exchange => integral exchange.1.toValue).getD .null) ∧
    Path.read (pastDocument opening past) (placePath "responses" place) =
      .ok ((past[place]?.map fun exchange => integral exchange.2.toValue).getD .null) := by
  obtain ⟨requests, responses⟩ := isBareName_messages
  rw [← List.getElem?_map, ← List.getElem?_map]
  constructor
  · exact Path.read_placePath requests short (by simp [Fields.find?, Fields.get?, Key.same_text])
  · exact Path.read_placePath responses short (by simp [Fields.find?, Fields.get?, Key.same_text])

/-- A place that is too long cannot be looked up. -/
theorem read_pastDocument_of_isLong (long : Number.isLong place = true) :
    Path.read (pastDocument opening past) (placePath "requests" place) = Outcome.defect .value ∧
    Path.read (pastDocument opening past) (placePath "responses" place) = Outcome.defect .value :=
  ⟨Path.read_placePath_of_isLong isBareName_messages.1 long _,
    Path.read_placePath_of_isLong isBareName_messages.2 long _⟩

/-- What is found at a place of the past stays the same when more messages follow. -/
theorem read_pastDocument_take {count : Nat} (inside : place < count) :
    Path.read (pastDocument opening past) (placePath "requests" place) =
      Path.read (pastDocument opening (past.take count)) (placePath "requests" place) ∧
    Path.read (pastDocument opening past) (placePath "responses" place) =
      Path.read (pastDocument opening (past.take count)) (placePath "responses" place) := by
  cases length : Number.isLong place with
  | true =>
    have all := read_pastDocument_of_isLong opening past length
    have first := read_pastDocument_of_isLong opening (past.take count) length
    exact ⟨all.1.trans first.1.symm, all.2.trans first.2.symm⟩
  | false =>
    have all := read_pastDocument opening past length
    have first := read_pastDocument opening (past.take count) length
    rw [List.getElem?_take_of_lt inside] at first
    exact ⟨all.1.trans first.1.symm, all.2.trans first.2.symm⟩

end

section

variable {σ : Type} (b : Builder) (gateway : Gateway σ) (opening : Request)
variable (template : BatchTemplate) (s : σ)

/-- What is seen of the past at a stage of a run. -/
structure SeesPast (stage : Stage σ) : Prop where
  /-- The document is the opening request with the requests and the responses of the steps before,
  in which only the decimal numbers without a fraction have become integers. -/
  document : stage.document = pastDocument opening stage.past
  /-- The run goes on with the request that the next template gives for that document. -/
  builds : ∀ asked, template.requests[stage.past.length]? = some asked →
    (b.runBatch gateway opening template).run.run s = (do
      let request ← Action.lift (b.buildRequest asked (pastDocument opening stage.past))
      let response ← gateway.exchange stage.past.length template.requests.length request
      let past := stage.past ++ [(request, response)]
      let document ← Action.lift (History.after opening past).document
      Stage.rest b gateway opening template past document).run.run stage.state
  /-- After all steps the run ends with the response that its template gives for that document. -/
  responds : ∀ response, stage.past.length = template.requests.length →
    template.response = some response →
    (b.runBatch gateway opening template).run.run s =
      (b.buildResponse response (pastDocument opening stage.past), stage.state)
  /-- The query of a place finds the message of that step, or null if there is none yet. -/
  finds : ∀ place : Nat, Number.isLong place = false →
    Path.read stage.document (placePath "requests" place) =
      .ok ((stage.past[place]?.map fun exchange => integral exchange.1.toValue).getD .null) ∧
    Path.read stage.document (placePath "responses" place) =
      .ok ((stage.past[place]?.map fun exchange => integral exchange.2.toValue).getD .null)
  /-- The query of a place that is too long breaks down. -/
  refuses : ∀ place : Nat, Number.isLong place = true →
    Path.read stage.document (placePath "requests" place) = Outcome.defect .value ∧
    Path.read stage.document (placePath "responses" place) = Outcome.defect .value
  /-- What is found of a step before is found of it at every later stage. -/
  keeps : ∀ later, Stage.Reached b gateway opening template s later →
    History.IsJson opening later.past → stage.past.length ≤ later.past.length →
    ∀ place < stage.past.length,
      Path.read later.document (placePath "requests" place) =
        Path.read stage.document (placePath "requests" place) ∧
      Path.read later.document (placePath "responses" place) =
        Path.read stage.document (placePath "responses" place)

end

variable {σ : Type} {b : Builder} {gateway : Gateway σ} {opening : Request}
variable {template : BatchTemplate} {s : σ} {stage : Stage σ}

/-- The document of a stage is that of its past. -/
theorem Stage.Reached.document_eq (reached : Stage.Reached b gateway opening template s stage)
    (isJson : History.IsJson opening stage.past) :
    stage.document = pastDocument opening stage.past := by
  rw [pastDocument_eq]
  exact Builder.eq_integral_of_detach (History.isJson_toValue isJson) reached.recorded

/-- At every stage that a run reaches with messages of the kinds that JSON has a form for, exactly
the past is seen. -/
theorem seesPast_of_reached (reached : Stage.Reached b gateway opening template s stage)
    (isJson : History.IsJson opening stage.past) :
    SeesPast b gateway opening template s stage where
  document := reached.document_eq isJson
  builds asked asks := by rw [reached.run_eq, Stage.rest_eq asks, reached.document_eq isJson]
  responds response all given := by
    rw [reached.run_of_stops (.complete all), Stage.response, given, reached.document_eq isJson]
  finds place short := by
    rw [reached.document_eq isJson]
    exact read_pastDocument opening stage.past short
  refuses place long := by
    rw [reached.document_eq isJson]
    exact read_pastDocument_of_isLong opening stage.past long
  keeps later reached' isJson' le place inside := by
    rw [reached.document_eq isJson, reached'.document_eq isJson', reached.past_eq_take reached' le]
    exact read_pastDocument_take opening later.past inside

/-- A batch of one request. -/
def oneRequest : BatchTemplate := { requests := [{ url := "x" }] }

/-- No headers are of these kinds. -/
theorem Headers.isJson_nil : Headers.IsJson [] := by
  refine ⟨.nil, fun header among => ?_⟩
  cases among

/-- An opening request without content is of these kinds. -/
theorem History.isJson_start : IsJson {} [] := by
  refine ⟨⟨Headers.isJson_nil, trivial⟩, fun exchange among => ?_⟩
  cases among

/-- A batch for an opening request without content reaches its first stage. -/
theorem reached_start (b : Builder) (gateway : Gateway σ) (template : BatchTemplate) (s : σ) :
    Stage.Reached b gateway {} template s ⟨[], pastDocument {} [], s⟩ := by
  have isJson := History.isJson_toValue History.isJson_start
  have written : ∃ text, Json.write .spaced (History.after {} []).toValue = .ok text := ⟨_, rfl⟩
  obtain ⟨text, written⟩ := written
  rw [pastDocument_eq]
  exact .start (Builder.detach_of_write isJson written)

/-- A response whose body is a decimal zero without a fraction is seen with an integer zero. -/
theorem seesPast_of_reached_zero :
    let gateway : Gateway Unit :=
      { dispatch := fun _ => pure { body := .decimal (.finite false 0 1) } }
    let past : List (Request × Response) :=
      [({ url := some "x" }, { body := .decimal (.finite false 0 1) })]
    let stage : Stage Unit := ⟨past, pastDocument {} past, ()⟩
    Stage.Reached {} gateway {} oneRequest () stage ∧
    History.IsJson {} stage.past ∧
    Path.read stage.document (placePath "responses" 0) = .ok (.object [
      (.text "status", .null), (.text "headers", .null), (.text "body", .int 0)]) ∧
    Path.read stage.document (placePath "responses" 1) = .ok .null := by
  intro gateway past stage
  have isJson : History.IsJson {} past := by
    refine ⟨History.isJson_start.1, fun exchange made => ?_⟩
    obtain rfl := List.mem_singleton.mp made
    have zero : (Decimal.finite false 0 1).IsAdmitted := ⟨by decide, by decide⟩
    refine ⟨⟨Headers.isJson_nil, trivial⟩, fun headers given => ?_, zero⟩
    cases given
  have reached : Stage.Reached {} gateway {} oneRequest () stage := by
    have built : ({} : Builder).buildRequest { url := "x" } (pastDocument {} []) =
        .ok { url := some "x" } := rfl
    have written : ∃ text, Json.write .spaced (History.after {} past).toValue = .ok text := ⟨_, rfl⟩
    obtain ⟨text, written⟩ := written
    have recorded := Builder.detach_of_write (History.isJson_toValue isJson) written
    rw [← pastDocument_eq] at recorded
    exact (reached_start {} gateway oneRequest ()).step rfl built rfl recorded
  have sees := seesPast_of_reached reached isJson
  refine ⟨reached, isJson, ?_, ?_⟩
  · exact (sees.finds 0 (Number.isLong_eq_false (Number.pow10_pos _))).2
  · exact (sees.finds 1 (Number.isLong_eq_false (by decide +kernel))).2

/-- Not every place beyond the past is found to be null: one more digit than can be read makes the
query break down at the first step of a batch. -/
theorem read_place_ne_null :
    let gateway : Gateway Unit := { dispatch := fun _ => pure {} }
    ∃ stage : Stage Unit,
      Stage.Reached {} gateway {} oneRequest () stage ∧
      History.IsJson {} stage.past ∧
      stage.past.length ≤ Number.pow10 4300 ∧
      Path.read stage.document (placePath "responses" (Number.pow10 4300)) =
        Outcome.defect .value ∧
      Path.read stage.document (placePath "responses" (Number.pow10 4300)) ≠ .ok .null := by
  intro gateway
  have long : Number.isLong (Number.pow10 4300) = true := by
    rw [Number.isLong, Int.natAbs_natCast]
    exact decide_eq_true (Nat.le_refl _)
  have breaks := (read_pastDocument_of_isLong {} [] long).2
  refine ⟨⟨[], pastDocument {} [], ()⟩, reached_start {} gateway oneRequest (),
    History.isJson_start, Nat.zero_le _, breaks, fun null => ?_⟩
  rw [breaks] at null
  cases null

end Stencil
