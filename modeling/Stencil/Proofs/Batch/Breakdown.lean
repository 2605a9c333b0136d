import Stencil.Proofs.Batch.WellFormed
import Stencil.Proofs.Batch.Writable
import Stencil.Proofs.Build.Breakdown

/-!
# Where a batch breaks down

A batch whose requests are answered, each with values of JSON or with the error that there is no
response, gives a response or fails with an error for the caller. Otherwise it breaks down, at a
stage that it reaches: a part of the next message cannot be built or shown, or the exchange holds a
number that is too long to be written.
-/

namespace Stencil

open Json (HasForm IsKept IsShown)
open Outcome (FailsOnly)
open Value (AllScalars)

/-- What is found inside of a value is not shown, so the value is not shown either. -/
theorem IsUnshown.of_part {v part : Value} {d : Defect}
    (inside : AllScalars IsShown v → AllScalars IsShown part) (unshown : IsUnshown part d) :
    IsUnshown v d :=
  ⟨unshown.1, fun shown => unshown.2 (inside shown)⟩

/-- A failure of showing a part of a value is one of showing the value. -/
theorem FailsShowing.of_part {v part : Value} {failure : Failure}
    (inside : AllScalars IsShown v → AllScalars IsShown part) (fails : FailsShowing part failure) :
    FailsShowing v failure := by
  rcases fails with error | ⟨d, unshown, rfl⟩
  · exact .inl error
  · exact .inr ⟨d, unshown.of_part inside, rfl⟩

namespace Headers

variable {v : Value}

/-- A text of a value fails only if the value cannot be shown. -/
theorem failsOnly_toText_of_isKept (kept : AllScalars IsKept v) :
    FailsOnly (FailsShowing v) v.toText :=
  failsOnly_toText (Json.allScalars_isOrdinary_of_isKept kept)

/-- The texts of a header are made of a value unless one of them cannot be shown. -/
theorem failsOnly_textsOf (kept : AllScalars IsKept v) :
    FailsOnly (FailsShowing v) (textsOf Value.toText v) := by
  unfold textsOf
  split
  · refine .mapM_of_mem fun item among => ?_
    have each := Value.allItems_iff.mp kept item among
    exact (failsOnly_toText_of_isKept each).mono fun failure =>
      .of_part fun shown => Value.allItems_iff.mp shown item among
  · exact (failsOnly_toText_of_isKept kept).map _

/-- Headers are made of a value unless a text of them cannot be shown. -/
theorem failsOnly_ofBuilt (kept : AllScalars IsKept v) :
    FailsOnly (FailsShowing v) (ofBuilt v) := by
  cases v with
  | object members =>
    refine .mapM_of_mem fun member among => FailsOnly.bind ?_ fun texts => .ok _
    have all := (Value.allMembers_iff.mp kept.2 member among).2
    refine (failsOnly_textsOf all).mono fun failure => ?_
    exact .of_part fun shown => (Value.allMembers_iff.mp shown.2 member among).2
  | _ => exact .error (.inl ⟨_, rfl⟩)

end Headers

namespace Builder

section Parts

variable (b : Builder) (schema document : Value)

/-- A part of a message breaks down: building it does, or the value that is built cannot be
shown. -/
def BreaksShowing (d : Defect) : Prop :=
  BreaksIn b schema document d ∨ ∃ v, b.build schema document = .ok v ∧ IsUnshown v d

end Parts

/-- Building a request breaks down, at one of its parts. -/
inductive RequestBreaks (b : Builder) (template : RequestTemplate) (document : Value) :
    Defect → Prop where
  /-- At the address. -/
  | url {d : Defect} (breaks : BreaksIn b (.text ("str " ++ template.url)) document d) :
    RequestBreaks b template document d
  /-- At the body. -/
  | body {schema : Value} {d : Defect} (given : template.body = some schema)
    (breaks : BreaksIn b schema document d) : RequestBreaks b template document d
  /-- At the headers. -/
  | headers {schema : Value} {d : Defect} (given : template.headers = some schema)
    (breaks : BreaksShowing b schema document d) : RequestBreaks b template document d

/-- Building a response breaks down, at one of its parts. -/
inductive ResponseBreaks (b : Builder) (template : ResponseTemplate) (document : Value) :
    Defect → Prop where
  /-- At the status. -/
  | status {schema : Value} {d : Defect} (given : template.status = some schema)
    (breaks : BreaksShowing b schema document d) : ResponseBreaks b template document d
  /-- At the body. -/
  | body {schema : Value} {d : Defect} (given : template.body = some schema)
    (breaks : BreaksIn b schema document d) : ResponseBreaks b template document d
  /-- At the headers. -/
  | headers {schema : Value} {d : Defect} (given : template.headers = some schema)
    (breaks : BreaksShowing b schema document d) : ResponseBreaks b template document d

section Messages

variable {b : Builder} {document : Value}

/-- The parts of a response are built one after the other; a part without a schema is missing, and
the body is null then. -/
theorem buildResponse_eq (b : Builder) (template : ResponseTemplate) (document : Value) :
    b.buildResponse template document = (do
      let status ← template.status.elim (.ok none) fun schema => b.buildStatus schema document
      let body ← template.body.elim (.ok .null) fun schema => b.build schema document
      let headers ← template.headers.elim (.ok none) fun schema =>
        (b.buildHeaders schema document).map some
      return { status, headers, body }) := by
  unfold buildResponse
  cases template.status <;> cases template.body <;> cases template.headers <;> rfl

section

variable (standard : b.functions = .standard) (formed : AllScalars HasForm document)

include standard formed

/-- Building a value of which a breakdown is a breakdown in the given ways. -/
theorem failsOnly_build_of {breaks : Defect → Prop} {schema : Value}
    (of : ∀ d, BreaksIn b schema document d → breaks d) :
    FailsOnly (Failure.IsErrorOr breaks) (b.build schema document) := by
  refine (failsOnly_build standard formed schema).mono fun failure fails => ?_
  rcases fails with error | ⟨d, ⟨-, breaksIn⟩, rfl⟩
  · exact .inl error
  · exact .inr ⟨d, of d breaksIn, rfl⟩

/-- Building a value and showing it, of which a breakdown is a breakdown in the given ways. -/
theorem failsOnly_build_bind {α : Type} {breaks : Defect → Prop} {schema : Value}
    {next : Value → Outcome α}
    (shows : ∀ v, AllScalars IsKept v → FailsOnly (FailsShowing v) (next v))
    (of : ∀ d, BreaksShowing b schema document d → breaks d) :
    FailsOnly (Failure.IsErrorOr breaks) (b.build schema document >>= next) := by
  have first := failsOnly_build_of standard formed fun d breaksIn => of d (.inl breaksIn)
  refine first.bind_of_ok fun v built => ?_
  refine (shows v (isKept_of_build standard formed built)).mono fun failure fails => ?_
  rcases fails with error | ⟨d, unshown, rfl⟩
  · exact .inl error
  · exact .inr ⟨d, of d (.inr ⟨v, built, unshown⟩), rfl⟩

/-- A request is built, unless it is refused with an error or one of its parts breaks down. -/
theorem failsOnly_buildRequest (template : RequestTemplate) :
    FailsOnly (Failure.IsErrorOr (RequestBreaks b template document))
      (b.buildRequest template document) := by
  rw [buildRequest_eq]
  refine FailsOnly.bind ?_ fun url => FailsOnly.bind ?_ fun body => FailsOnly.bind ?_
    fun headers => .ok _
  · refine FailsOnly.bind (failsOnly_build_of standard formed fun d => .url) fun v => ?_
    cases v <;> exact .ok _
  · cases given : template.body with
    | none => exact .ok _
    | some schema => exact failsOnly_build_of standard formed fun d => .body given
  · cases given : template.headers with
    | none => exact .ok _
    | some schema =>
      exact failsOnly_build_bind standard formed (fun v => Headers.failsOnly_ofBuilt)
        fun d => .headers given

/-- A status is built, unless it is refused with an error or breaks down. -/
theorem failsOnly_buildStatus {breaks : Defect → Prop} {schema : Value}
    (of : ∀ d, BreaksShowing b schema document d → breaks d) :
    FailsOnly (Failure.IsErrorOr breaks) (b.buildStatus schema document) := by
  refine failsOnly_build_bind standard formed (fun v _ => ?_) of
  split
  · exact .ok _
  · refine (failsOnly_castInteger _).bind fun n => ?_
    cases n <;> exact .ok _

/-- A response is built, unless it is refused with an error or one of its parts breaks down. -/
theorem failsOnly_buildResponse (template : ResponseTemplate) :
    FailsOnly (Failure.IsErrorOr (ResponseBreaks b template document))
      (b.buildResponse template document) := by
  rw [buildResponse_eq]
  refine FailsOnly.bind ?_ fun status => FailsOnly.bind ?_ fun body => FailsOnly.bind ?_
    fun headers => .ok _
  · cases given : template.status with
    | none => exact .ok _
    | some schema => exact failsOnly_buildStatus standard formed fun d => .status given
  · cases given : template.body with
    | none => exact .ok _
    | some schema => exact failsOnly_build_of standard formed fun d => .body given
  · cases given : template.headers with
    | none => exact .ok _
    | some schema =>
      have headers : FailsOnly (Failure.IsErrorOr (ResponseBreaks b template document))
          (b.buildHeaders schema document) :=
        failsOnly_build_bind standard formed (fun v => Headers.failsOnly_ofBuilt)
          fun d => .headers given
      exact headers.map some

/-- The body that a template gives is read again once it is written; without a template it is
null. -/
theorem isKept_of_body {template : Option Value} {body : Value}
    (h : template.elim (.ok .null) (fun schema => b.build schema document) = .ok body) :
    AllScalars IsKept body := by
  cases template with
  | none =>
    cases h
    trivial
  | some schema => exact isKept_of_build standard formed h

/-- A request that is built has headers and a body that are read again once they are written. -/
theorem holds_of_buildRequest {template : RequestTemplate} {request : Request}
    (h : b.buildRequest template document = .ok request) : request.Holds IsKept := by
  rw [buildRequest_eq] at h
  obtain ⟨url, -, h⟩ := Outcome.exists_of_bind_eq_ok h
  obtain ⟨body, content, h⟩ := Outcome.exists_of_bind_eq_ok h
  obtain ⟨headers, named, same⟩ := Outcome.exists_of_bind_eq_ok h
  cases same
  refine ⟨?_, isKept_of_body standard formed content⟩
  cases given : template.headers with
  | none =>
    rw [given] at named
    cases named
    exact Headers.isJson_nil
  | some schema =>
    rw [given] at named
    exact isJson_of_buildHeaders standard formed named

/-- A response that is built has headers and a body that are read again once they are written. -/
theorem holds_of_buildResponse {template : ResponseTemplate} {response : Response}
    (h : b.buildResponse template document = .ok response) : response.Holds IsKept := by
  rw [buildResponse_eq] at h
  obtain ⟨status, -, h⟩ := Outcome.exists_of_bind_eq_ok h
  obtain ⟨body, content, h⟩ := Outcome.exists_of_bind_eq_ok h
  obtain ⟨headers, named, same⟩ := Outcome.exists_of_bind_eq_ok h
  cases same
  refine ⟨fun _ _ => trivial, fun names found => ?_, isKept_of_body standard formed content⟩
  cases given : template.headers with
  | none =>
    rw [given] at named
    cases named
    cases found
  | some schema =>
    rw [given] at named
    obtain ⟨built, buildHeaders, rfl⟩ := Outcome.exists_of_map_eq_ok named
    cases found
    exact isJson_of_buildHeaders standard formed buildHeaders

end

end Messages

end Builder

/-- A response with certain scalars has those of a weaker property. -/
theorem Response.Holds.mono {p q : Value → Prop} {response : Response}
    (holds : response.Holds p) (weaker : ∀ v, p v → q v) : response.Holds q :=
  ⟨fun status given => weaker _ (holds.1 status given), holds.2.1,
    AllScalars.mono weaker _ holds.2.2⟩

namespace History

variable {p q : Value → Prop} {opening : Request} {past : List (Request × Response)}

/-- What the value of a history holds is held by its messages. -/
theorem holds_of_allScalars (named : Holds q opening past)
    (all : AllScalars p (after opening past).toValue) : Holds p opening past := by
  have body (exchange : Request × Response) (made : exchange ∈ past) :
      AllScalars p exchange.2.body := allScalars_body all made
  obtain ⟨-, -, original, -, requests, -, responses, -⟩ := all
  obtain ⟨-, -, -, -, -, -, -, -, opened, -⟩ := original
  refine ⟨⟨named.1.1, opened⟩, fun exchange made => ?_⟩
  obtain ⟨-, -, -, -, -, -, -, -, sent, -⟩ :=
    Value.allItems_iff.mp requests _ (List.mem_map_of_mem (List.mem_map_of_mem made))
  obtain ⟨-, -, status, -⟩ :=
    Value.allItems_iff.mp responses _ (List.mem_map_of_mem (List.mem_map_of_mem made))
  obtain ⟨⟨sentNames, -⟩, -, receivedNames, -⟩ := named.2 exchange made
  refine ⟨⟨sentNames, sent⟩, fun code given => ?_, receivedNames, body exchange made⟩
  rw [given] at status
  exact status

/-- A history whose scalars are read again once they are written becomes a document if they can be
written, and breaks down otherwise. -/
theorem failsUnless_document (kept : Holds IsKept opening past) :
    Json.FailsUnless (Holds IsShown opening past) (after opening past).document := by
  have all := allScalars_toValue trivial (fun _ => trivial) kept
  constructor
  · intro shown
    have allShown := allScalars_toValue trivial (fun _ => trivial) shown
    obtain ⟨text, document, written, read⟩ := Json.exists_write_read_of_isKept .spaced all allShown
    exact ⟨document, by rw [History.document, Builder.detach, written, Outcome.ok_bind, read]⟩
  · intro hidden
    have inside : ¬AllScalars IsShown (after opening past).toValue :=
      fun allShown => hidden (holds_of_allScalars kept allShown)
    have ordinary := Json.allScalars_isOrdinary_of_isKept all
    rw [History.document, Builder.detach, Json.write_eq_defect .spaced ordinary inside]
    rfl

/-- A history that became a document can be written. -/
theorem holds_of_document (kept : Holds IsKept opening past) {document : Value}
    (recorded : (after opening past).document = .ok document) : Holds IsShown opening past :=
  Classical.byContradiction fun hidden => by
    rw [(failsUnless_document kept).2 hidden] at recorded
    cases recorded

end History

/-- An answer to a request: a response with scalars that JSON text has a form for, or the error that
there is no response. -/
def IsAnswer (answer : Outcome Response) : Prop :=
  (∃ response, answer = .ok response ∧ response.Holds HasForm) ∨
    ∃ method url reason, answer = .error (.error (.dispatch method url reason))

variable {σ : Type}

/-- Whatever the state outside, each exchange ends with an answer. -/
def Gateway.Answers (gateway : Gateway σ) : Prop :=
  ∀ index total request s, IsAnswer ((gateway.exchange index total request).run.run s).1

/-- Every exchange with a dispatcher that always answers ends with an answer. -/
theorem Recorder.answers_recording {τ : Type} {dispatch : Request → τ → Outcome Response × τ}
    {clock : τ → Binary64 × τ} (answers : ∀ request world, IsAnswer (dispatch request world).1) :
    (recording dispatch clock).Answers := by
  intro index total request recorder
  have answer := answers request (clock recorder.world).2
  cases dispatched : dispatch request (clock recorder.world).2 with
  | mk outcome world =>
    rw [dispatched] at answer
    cases outcome with
    | error e =>
      rw [run_exchange_error dispatched]
      exact answer
    | ok response =>
      rw [run_exchange_ok dispatched]
      exact answer

/-- A batch breaks down. -/
inductive BatchBreaks (b : Builder) (gateway : Gateway σ) (opening : Request)
    (template : BatchTemplate) (s : σ) : Defect → Prop where
  /-- The opening request holds a number that is too long to be written. -/
  | opening (hidden : ¬opening.Holds IsShown) : BatchBreaks b gateway opening template s .value
  /-- The next request breaks down at a stage that is reached. -/
  | request {stage : Stage σ} {asked : RequestTemplate} {d : Defect}
    (reached : Stage.Reached b gateway opening template s stage)
    (asks : template.requests[stage.past.length]? = some asked)
    (breaks : Builder.RequestBreaks b asked stage.document d) :
    BatchBreaks b gateway opening template s d
  /-- The next exchange holds a number that is too long to be written. -/
  | exchange {stage : Stage σ} {asked : RequestTemplate} {request : Request} {response : Response}
    {state : σ} (reached : Stage.Reached b gateway opening template s stage)
    (asks : template.requests[stage.past.length]? = some asked)
    (built : b.buildRequest asked stage.document = .ok request)
    (answered : (gateway.exchange stage.past.length template.requests.length
      request).run.run stage.state = (.ok response, state))
    (hidden : ¬(request.Holds IsShown ∧ response.Holds IsShown)) :
    BatchBreaks b gateway opening template s .value
  /-- The response breaks down after all steps. -/
  | response {stage : Stage σ} {described : ResponseTemplate} {d : Defect}
    (reached : Stage.Reached b gateway opening template s stage)
    (all : stage.past.length = template.requests.length)
    (describes : template.response = some described)
    (breaks : Builder.ResponseBreaks b described stage.document d) :
    BatchBreaks b gateway opening template s d

section Runs

variable {b : Builder} {gateway : Gateway σ} {opening : Request} {template : BatchTemplate} {s : σ}
variable {stage : Stage σ}

/-- The document of a stage was read from a text. -/
theorem Stage.Reached.hasForm_document
    (reached : Stage.Reached b gateway opening template s stage) :
    AllScalars HasForm stage.document :=
  Builder.hasForm_of_detach reached.recorded

section

variable (standard : b.functions = .standard) (answers : gateway.Answers)

include answers in
/-- An exchange that ends with a response ends with one that has a form. -/
theorem holds_of_exchange {index total : Nat} {request : Request} {response : Response}
    {state state' : σ} (answered : (gateway.exchange index total request).run.run state =
      (.ok response, state')) : response.Holds HasForm := by
  rcases answers index total request state with ⟨found, same, holds⟩ | ⟨_, _, _, failed⟩
  · rw [answered] at same
    cases same
    exact holds
  · rw [answered] at failed
    cases failed

include standard answers

/-- The messages of a stage are read again once they are written. -/
theorem Stage.Reached.holds (reached : Stage.Reached b gateway opening template s stage)
    (kept : opening.Holds IsKept) : History.Holds IsKept opening stage.past := by
  induction reached with
  | start recorded => exact ⟨kept, nofun⟩
  | step before asks built answered recorded ih =>
    have sent := Builder.holds_of_buildRequest standard before.hasForm_document built
    have received := (holds_of_exchange answers answered).mono fun _ => Json.isKept_of_hasForm
    exact ih.concat sent received

/-- A run that stops at a stage fails with an error, or the batch breaks down. -/
theorem Stage.Stops.failsOnly (reached : Stage.Reached b gateway opening template s stage)
    (kept : opening.Holds IsKept) {outcome : Outcome Response} {state : σ}
    (stops : Stage.Stops b gateway opening template stage outcome state) :
    FailsOnly (Failure.IsErrorOr (BatchBreaks b gateway opening template s)) outcome := by
  have formed := reached.hasForm_document
  cases stops with
  | complete all =>
    unfold Stage.response
    split
    · next described describes =>
      have builds := Builder.failsOnly_buildResponse standard formed described
      refine builds.mono fun failure fails => ?_
      rcases fails with error | ⟨d, breaks, rfl⟩
      · exact .inl error
      · exact .inr ⟨d, .response reached all describes breaks, rfl⟩
    · exact .ok _
  | unbuilt asks unbuilt =>
    have builds := Builder.failsOnly_buildRequest standard formed
    refine .error ?_
    rcases builds _ _ unbuilt with error | ⟨d, breaks, rfl⟩
    · exact .inl error
    · exact .inr ⟨d, .request reached asks breaks, rfl⟩
  | unanswered asks built unanswered =>
    refine .error (.inl ?_)
    rcases answers _ _ _ _ with ⟨found, same, -⟩ | ⟨method, url, reason, failed⟩
    · rw [unanswered] at same
      cases same
    · rw [unanswered] at failed
      cases failed
      exact ⟨_, rfl⟩
  | @unrecorded asked request response e state asks built answered unrecorded =>
    have before := reached.holds standard answers kept
    have sent := Builder.holds_of_buildRequest standard formed built
    have received := (holds_of_exchange answers answered).mono fun _ => Json.isKept_of_hasForm
    have records := History.failsUnless_document (before.concat sent received)
    by_cases shown : History.Holds IsShown opening (stage.past ++ [(request, response)])
    · obtain ⟨document, recorded⟩ := records.1 shown
      rw [unrecorded] at recorded
      cases recorded
    · cases unrecorded.symm.trans (records.2 shown)
      refine .error (.inr ⟨.value, .exchange reached asks built answered fun each => shown ?_, rfl⟩)
      exact (History.holds_of_document before reached.recorded).concat each.1 each.2

/-- A run gives a response, fails with an error, or the batch breaks down. -/
theorem failsOnly_runBatch (kept : opening.Holds IsKept) :
    FailsOnly (Failure.IsErrorOr (BatchBreaks b gateway opening template s))
      ((b.runBatch gateway opening template).run.run s).1 := by
  have start : History.Holds IsKept opening [] := ⟨kept, nofun⟩
  have opens := History.failsUnless_document start
  by_cases shown : opening.Holds IsShown
  · obtain ⟨document, opened⟩ := opens.1 ⟨shown, nofun⟩
    obtain ⟨last, outcome, state, reached, stops⟩ := (Stage.Reached.start opened).exists_stops
    rw [reached.run_of_stops stops]
    exact stops.failsOnly standard answers reached kept
  · have unopened := opens.2 fun holds => shown holds.1
    rw [Stage.runBatch_eq, unopened, Outcome.defect, Action.run_lift_error_bind]
    exact .error (.inr ⟨.value, .opening shown, rfl⟩)

/-- The response of a run has headers and a body that are read again once they are written. -/
theorem holds_of_runBatch (kept : opening.Holds IsKept) {response : Response}
    (h : ((b.runBatch gateway opening template).run.run s).1 = .ok response) :
    response.Holds IsKept := by
  cases opened : (History.after opening []).document with
  | error e =>
    rw [Stage.runBatch_eq, opened, Action.run_lift_error_bind] at h
    cases h
  | ok document =>
    obtain ⟨last, outcome, state, reached, stops⟩ := (Stage.Reached.start opened).exists_stops
    rw [reached.run_of_stops stops] at h
    dsimp only at h
    cases stops with
    | complete all =>
      have messages := reached.holds standard answers kept
      unfold Stage.response at h
      split at h
      · exact Builder.holds_of_buildResponse standard reached.hasForm_document h
      · cases h
        exact ⟨nofun, nofun, History.allScalars_toValue trivial (fun _ => trivial) messages⟩
    | unbuilt => cases h
    | unanswered => cases h
    | unrecorded => cases h

end

end Runs

end Stencil
