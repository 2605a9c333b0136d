import Stencil.Proofs.Batch.Breakdown
import Stencil.Proofs.Batch.Template
import Stencil.Server

/-!
# What a batch request is answered with

A request that brings a batch is answered: with status 400 if its body is no JSON, lacks a template,
or brings a batch that fails, with status 502 if a step gets no response, and with the response of
the batch otherwise. There is no reply only where something breaks down: a number of the body cannot
be held, the address of the request cannot be read, the batch breaks down, or its response cannot be
shown.
-/

namespace Stencil

open Json (HasForm IsKept IsShown)
open Value (AllScalars)

/-- The outcome of an action whose failure is caught is a result. -/
theorem Action.run_caught {σ α : Type} {x : Action σ α} {s s' : σ} {outcome : Outcome α}
    (h : x.run.run s = (outcome, s')) :
    (tryCatch (x.map Except.ok) fun failure => pure (Except.error failure) :
      Action σ (Outcome α)).run.run s = (.ok outcome, s') := by
  have mapped : (x.map Except.ok : Action σ (Outcome α)) = Except.ok <$> x := rfl
  rw [mapped, ExceptT.run_tryCatch, StateT.run_bind, ExceptT.run_map, StateT.run_map, h]
  cases outcome <;> rfl

namespace Reply

/-- A reply tells a status and, as JSON, a message about an error. -/
structure Tells (status : Int) (message : String) (reply : Reply) : Prop where
  /-- The status. -/
  status : reply.status = status
  /-- The only line tells the content type. -/
  lines : reply.lines = [jsonLine]
  /-- The content is read as the message. -/
  content : Json.read reply.content = .ok (.object [(.text "error", .text message)])

/-- A reply that tells of an error can always be made. -/
theorem exists_error (status : Int) (message : String) :
    ∃ reply, error status message = .ok reply ∧ reply.Tells status message := by
  have formed : AllScalars HasForm (.object [(.text "error", .text message)]) :=
    ⟨List.pairwise_singleton _ _, ⟨_, rfl⟩, trivial, trivial⟩
  have shown : AllScalars IsShown (.object [(.text "error", .text message)]) :=
    ⟨List.pairwise_singleton _ _, ⟨_, rfl⟩, trivial, trivial⟩
  obtain ⟨text, written, read⟩ := Json.exists_write_read .spaced formed shown
  exact ⟨⟨status, [jsonLine], text⟩, by rw [error, written]; rfl, rfl, rfl, read⟩

/-- A reply sends the response of a batch. -/
structure Sends (response : Response) (reply : Reply) : Prop where
  /-- A status that is missing or zero counts as 200. -/
  status : reply.status = (response.status.filter (· ≠ 0)).getD 200
  /-- The lines of the headers follow the one that tells the content type, or take its place. -/
  lines : withHeaders [jsonLine] (response.headers.getD []) = .ok reply.lines
  /-- The content is the body as JSON. -/
  content : Json.write .spaced response.body = .ok reply.content

/-- Headers whose names are texts become lines. -/
theorem exists_withHeaders {headers : Headers}
    (named : ∀ header ∈ headers, ∃ name, header.1 = .text name) (lines : Http.Lines) :
    ∃ more, withHeaders lines headers = .ok more := by
  induction headers generalizing lines with
  | nil => exact ⟨lines, rfl⟩
  | cons header rest ih =>
    obtain ⟨⟨name, key⟩, others⟩ := List.forall_mem_cons.mp named
    obtain ⟨_, texts⟩ := header
    obtain rfl : _ = Key.text name := key
    exact ih others _

/-- A response whose headers become lines is sent with them once its body is written. -/
theorem ofResponse_eq {response : Response} {lines : Http.Lines}
    (headed : withHeaders [jsonLine] (response.headers.getD []) = .ok lines) :
    ofResponse response = (Json.write .spaced response.body).map fun content =>
      { status := (response.status.filter (· ≠ 0)).getD 200, lines, content } := by
  unfold ofResponse
  rw [headed]
  cases Json.write .spaced response.body with
  | error e => rfl
  | ok content =>
    cases response.status with
    | none => rfl
    | some n => by_cases zero : n = 0 <;> simp [zero, Option.filter]

/-- A reply that is made of a response sends it. -/
theorem sends_of_ofResponse {response : Response} {reply : Reply}
    (made : ofResponse response = .ok reply) : reply.Sends response := by
  obtain ⟨_, -, afterwards⟩ := Outcome.exists_of_bind_eq_ok made
  obtain ⟨lines, headed, -⟩ := Outcome.exists_of_bind_eq_ok afterwards
  rw [ofResponse_eq headed] at made
  obtain ⟨content, written, rfl⟩ := Outcome.exists_of_map_eq_ok made
  exact ⟨rfl, headed, written⟩

/-- The response of a batch is sent, unless its body cannot be shown. -/
theorem sends_or_isUnshown {response : Response} (holds : response.Holds IsKept) :
    (∃ reply, ofResponse response = .ok reply ∧ reply.Sends response) ∨
      ∃ d, ofResponse response = .error (.defect d) ∧ IsUnshown response.body d := by
  obtain ⟨-, named, kept⟩ := holds
  have ordinary := Json.allScalars_isOrdinary_of_isKept kept
  by_cases shown : AllScalars IsShown response.body
  · obtain ⟨text, written⟩ := Json.exists_write .spaced ordinary shown
    have names : ∀ header ∈ response.headers.getD [], ∃ name, header.1 = .text name := by
      cases given : response.headers with
      | none => exact nofun
      | some headers => exact (named headers given).2
    obtain ⟨lines, headed⟩ := exists_withHeaders names [jsonLine]
    have made : ∃ reply, ofResponse response = .ok reply :=
      ⟨_, by rw [ofResponse_eq headed, written]; rfl⟩
    obtain ⟨reply, made⟩ := made
    exact .inl ⟨reply, made, sends_of_ofResponse made⟩
  · refine .inr ⟨.value, ?_, rfl, shown⟩
    rw [ofResponse, Json.write_eq_defect .spaced ordinary shown]
    rfl

end Reply

namespace Incoming

section

variable (r : Incoming) (target : Http.Target) (text : String)

/-- The headers of a request have different texts as their names. -/
theorem isJson_headers : r.headers.IsJson := by
  have scan (lines : Http.Lines) (headers : Headers) (isJson : headers.IsJson) :
      Headers.IsJson (lines.foldl (fun headers line =>
        let texts := (Fields.find? headers line.1).getD []
        Fields.insert headers (.text line.1) (texts ++ [line.2])) headers) := by
    induction lines generalizing headers with
    | nil => exact isJson
    | cons line rest ih =>
      refine ih _ ⟨isJson.1.insert _ _, fun header among => ?_⟩
      rcases Fields.mem_insert among with there | ⟨-, name | ⟨old, there⟩⟩
      · exact isJson.2 header there
      · exact ⟨line.1, name⟩
      · exact isJson.2 (header.1, old) there
  exact scan r.lines [] Headers.isJson_nil

/-- The address of a request cannot be read only by a breakdown. -/
theorem exists_url_or_defect :
    (∃ url, r.url target = .ok url) ∨ ∃ d, r.url target = .error (.defect d) := by
  unfold url ofTargetFault
  cases target.address ((r.line? "Host").getD "").toList with
  | ok address => exact .inl ⟨_, rfl⟩
  | error fault => cases fault <;> exact .inr ⟨_, rfl⟩

/-- The template that a body holds. -/
def template? : Value → Option Value
  | .object members => Fields.find? members "template"
  | _ => none

/-- A request brings a batch: its opening request, the body of which holds the template. -/
structure Brings (opening : Request) (template : BatchTemplate) : Prop where
  /-- The body is JSON and holds a template. -/
  held : ∃ body v, Json.read text = .ok body ∧ template? body = some v ∧
    BatchTemplate.ofValue (some "template") v = .ok template ∧
    r.opening target body = .ok opening

end

section

variable {σ : Type} (b : Builder) (gateway : Gateway σ) (r : Incoming) (target : Http.Target)
variable (text : String) (s : σ)

/-- The outcome of the batch for an opening request. -/
def batchOutcome (opening : Request) (template : BatchTemplate) : Outcome Response :=
  ((b.runBatch gateway opening template).run.run s).1

/-- A reply answers a request that brings a batch. -/
inductive Answers : Reply → Prop where
  /-- The body is no JSON. -/
  | unreadable {fault : Json.Fault} {reply : Reply} (read : Json.read text = .error (.json fault))
    (tells : reply.Tells 400 ("Invalid JSON body: " ++ fault.message)) : Answers reply
  /-- The body holds no template. -/
  | missing {body : Value} {reply : Reply} (read : Json.read text = .ok body)
    (without : template? body = none)
    (tells : reply.Tells 400 "Request body must contain a 'template' object") : Answers reply
  /-- The template is refused. -/
  | refused {body v : Value} {e : Error} {reply : Reply} (read : Json.read text = .ok body)
    (held : template? body = some v)
    (refuses : BatchTemplate.ofValue (some "template") v = .error (.error e))
    (tells : reply.Tells 400 e.message) : Answers reply
  /-- The batch fails. -/
  | failed {opening : Request} {template : BatchTemplate} {e : Error} {reply : Reply}
    (brings : Brings r target text opening template)
    (fails : batchOutcome b gateway s opening template = .error (.error e))
    (other : ∀ method url reason, e ≠ .dispatch method url reason)
    (tells : reply.Tells 400 e.message) : Answers reply
  /-- A step of the batch gets no response. -/
  | undispatched {opening : Request} {template : BatchTemplate} {method url reason : String}
    {reply : Reply} (brings : Brings r target text opening template)
    (fails : batchOutcome b gateway s opening template =
      .error (.error (.dispatch method url reason)))
    (tells : reply.Tells 502 (Error.dispatch method url reason).message) : Answers reply
  /-- The batch has a response. -/
  | responded {opening : Request} {template : BatchTemplate} {response : Response} {reply : Reply}
    (brings : Brings r target text opening template)
    (responds : batchOutcome b gateway s opening template = .ok response)
    (sends : reply.Sends response) : Answers reply

/-- A breakdown for which a request gets no reply. -/
inductive Escapes : Defect → Prop where
  /-- A number of the body cannot be held. -/
  | number {d : Defect} (read : Json.read text = .error (.defect d))
    (kind : d = .value ∨ d = .invalidOperation) : Escapes d
  /-- The address of the request cannot be read. -/
  | address {d : Defect} (broken : r.url target = .error (.defect d)) : Escapes d
  /-- The batch breaks down. -/
  | batch {opening : Request} {template : BatchTemplate} {d : Defect}
    (brings : Brings r target text opening template)
    (breaks : BatchBreaks b gateway opening template s d) : Escapes d
  /-- The body of the response cannot be shown. -/
  | response {opening : Request} {template : BatchTemplate} {response : Response} {d : Defect}
    (brings : Brings r target text opening template)
    (responds : batchOutcome b gateway s opening template = .ok response)
    (hidden : IsUnshown response.body d) : Escapes d

/-- A request is answered, or it gets no reply because of a breakdown. -/
def AnswersOrEscapes (outcome : Outcome Reply) : Prop :=
  (∃ reply, outcome = .ok reply ∧ Answers b gateway r target text s reply) ∨
    ∃ d, outcome = .error (.defect d) ∧ Escapes b gateway r target text s d

end

section

variable {σ : Type} {b : Builder} {gateway : Gateway σ} {r : Incoming} {target : Http.Target}
variable {text : String} {s : σ}

/-- Telling of an error answers a request. -/
theorem answersOrEscapes_error {status : Int} {message : String}
    (answers : ∀ reply : Reply, reply.Tells status message →
      Answers b gateway r target text s reply) :
    AnswersOrEscapes b gateway r target text s (Reply.error status message) := by
  obtain ⟨reply, made, tells⟩ := Reply.exists_error status message
  exact .inl ⟨reply, made, answers reply tells⟩

/-- The outcome of a batch is what its template comes to, once the request is opened, and the state
is left as the batch leaves it. -/
theorem run_runTemplate_eq {body : Value} {opening : Request} {template : BatchTemplate}
    (opened : r.opening target body = .ok opening) :
    (runTemplate b gateway r target body template).run.run s =
      (match batchOutcome b gateway s opening template with
        | .ok response => Reply.ofResponse response
        | .error failure => replyOf failure,
      ((b.runBatch gateway opening template).run.run s).2) := by
  unfold runTemplate batchOutcome
  cases run : (b.runBatch gateway opening template).run.run s with
  | mk outcome state =>
    rw [opened, Action.lift_ok_bind, Action.run_bind_ok (Action.run_caught run)]
    cases outcome <;> rfl

/-- The outcome of a batch is what its template comes to, once the request is opened. -/
theorem run_runTemplate {body : Value} {opening : Request} {template : BatchTemplate}
    (opened : r.opening target body = .ok opening) :
    ((runTemplate b gateway r target body template).run.run s).1 =
      match batchOutcome b gateway s opening template with
      | .ok response => Reply.ofResponse response
      | .error failure => replyOf failure := by
  rw [run_runTemplate_eq opened]

/-- A batch that fails with an error is answered with the message of the error. -/
theorem answersOrEscapes_replyOf {opening : Request} {template : BatchTemplate} {e : Error}
    (brings : Brings r target text opening template)
    (fails : batchOutcome b gateway s opening template = .error (.error e)) :
    AnswersOrEscapes b gateway r target text s (replyOf (.error e)) := by
  cases e with
  | dispatch method url reason =>
    exact answersOrEscapes_error fun reply => .undispatched brings fails
  | _ => exact answersOrEscapes_error fun reply => .failed brings fails nofun

section

variable (standard : b.functions = .standard) (answers : gateway.Answers)

include standard answers

/-- A request that brings a batch is answered or gets no reply because of a breakdown. -/
theorem answersOrEscapes_runTemplate {body v : Value} {template : BatchTemplate}
    (read : Json.read text = .ok body) (held : template? body = some v)
    (reads : BatchTemplate.ofValue (some "template") v = .ok template) :
    AnswersOrEscapes b gateway r target text s
      ((runTemplate b gateway r target body template).run.run s).1 := by
  rcases r.exists_url_or_defect target with ⟨url, address⟩ | ⟨d, broken⟩
  · have opened : r.opening target body =
        .ok { method := r.method, url := some url, headers := r.headers, body } := by
      rw [opening, address]
      rfl
    have brings : Brings r target text _ template := ⟨body, v, read, held, reads, opened⟩
    have kept := Json.allScalars_isKept (Json.of_read read).1
    have holds : Request.Holds IsKept
        { method := r.method, url := some url, headers := r.headers, body } :=
      ⟨r.isJson_headers, kept⟩
    rw [run_runTemplate opened]
    cases outcome : batchOutcome b gateway s _ template with
    | ok response =>
      have responded := holds_of_runBatch standard answers holds outcome
      rcases Reply.sends_or_isUnshown responded with ⟨reply, made, sends⟩ | ⟨d, broken, hidden⟩
      · exact .inl ⟨reply, made, .responded brings outcome sends⟩
      · exact .inr ⟨d, broken, .response brings outcome hidden⟩
    | error failure =>
      rcases failsOnly_runBatch standard answers holds failure outcome with
        ⟨e, rfl⟩ | ⟨d, breaks, rfl⟩
      · exact answersOrEscapes_replyOf brings outcome
      · exact .inr ⟨d, rfl, .batch brings breaks⟩
  · refine .inr ⟨d, ?_, .address broken⟩
    rw [runTemplate, opening, broken]
    rfl

/-- A request is answered or gets no reply because of a breakdown, whatever its body is. -/
theorem answersOrEscapes_runBatch (r : Incoming) (target : Http.Target) (text : String) :
    AnswersOrEscapes b gateway r target text s
      ((r.runBatch b gateway target text.toList).run.run s).1 := by
  have chars : Json.read text = Json.readChars .exact text.toList := rfl
  unfold runBatch
  split
  · next fault read => exact answersOrEscapes_error fun reply => .unreadable (chars.trans read)
  · next failure noFault read =>
    rcases Json.failsOnly_read text failure (chars.trans read) with ⟨fault, rfl⟩ | ⟨d, kind, rfl⟩
    · exact absurd rfl (noFault fault)
    · exact .inr ⟨d, rfl, .number (chars.trans read) kind⟩
  · next body read =>
    have readable := Json.allScalars_of_read (chars.trans read)
    split
    · next members =>
      split
      · next without =>
        exact answersOrEscapes_error fun reply => .missing (chars.trans read) without
      · next v held =>
        have inside := BatchTemplate.allScalars_of_find? readable.2 held
        split
        · next template reads =>
          exact answersOrEscapes_runTemplate standard answers (chars.trans read) held reads
        · next e refuses =>
          exact answersOrEscapes_error fun reply => .refused (chars.trans read) held refuses
        · next failure noError refuses =>
          obtain ⟨e, rfl⟩ := BatchTemplate.failsOnly_ofValue inside failure refuses
          exact absurd rfl (noError e)
    · next noObject =>
      have without : template? body = none := by
        cases body with
        | object members => exact absurd rfl (noObject members)
        | _ => rfl
      exact answersOrEscapes_error fun reply => .missing (chars.trans read) without

end

end

/-- What a request that brings a batch comes to, whatever its body is, with the standard functions
and a dispatcher that answers every request, with a response of values of JSON or with the error
that there is none. The request is answered: with status 400 if the body is no JSON or lacks a
template, or if the template is refused or the batch fails, with status 502 if a step gets no
response, and with the response of the batch otherwise. Or it gets no reply because something breaks
down: a number of the body cannot be held, the address of the request cannot be read, the batch
breaks down at a stage that it reaches, or the body of its response cannot be shown. -/
theorem isAnswered_or_escapes {τ : Type} (limit : Int) (r : Incoming) (target : Http.Target)
    (text : String) {dispatch : Request → τ → Outcome Response × τ} (clock : τ → Binary64 × τ)
    (world : τ) (answers : ∀ request world, IsAnswer (dispatch request world).1) :
    let b : Builder := ⟨.standard, limit⟩
    let gateway := Recorder.recording dispatch clock
    let s : Recorder τ := ⟨world, []⟩
    let outcome := ((r.runBatch b gateway target text.toList).run.run s).1
    (∃ reply, outcome = .ok reply ∧ Answers b gateway r target text s reply) ∨
      ∃ d, outcome = .error (.defect d) ∧ Escapes b gateway r target text s d :=
  answersOrEscapes_runBatch rfl (Recorder.answers_recording answers) r target text

/-- A request whose only step gets no response is answered with status 502. -/
theorem isAnswered_or_escapes_refused :
    let text := "\x7b\"template\": \x7b\"requests\": [\x7b\"url\": \"x\"\x7d]\x7d\x7d"
    let dispatch (_ : Request) (_ : Unit) : Outcome Response × Unit :=
      (Outcome.fail (.dispatch "GET" "x" "refused"), ())
    let clock (_ : Unit) : Binary64 × Unit := (.zero false, ())
    let gateway := Recorder.recording dispatch clock
    let r : Incoming := ⟨"POST", "/batch", [], []⟩
    let target : Http.Target := { path := "/batch".toList }
    (∀ request world, IsAnswer (dispatch request world).1) ∧
    ∃ reply, ((r.runBatch {} gateway target text.toList).run.run ⟨(), []⟩).1 = .ok reply ∧
      Answers {} gateway r target text ⟨(), []⟩ reply ∧
      reply.Tells 502 "GET x failed: refused" := by
  intro text dispatch clock gateway r target
  have answers (request : Request) (world : Unit) : IsAnswer (dispatch request world).1 :=
    .inr ⟨_, _, _, rfl⟩
  let template : Value := .object [(.text "requests", .list [.object [(.text "url", .text "x")]])]
  let body : Value := .object [(.text "template", template)]
  have formed : AllScalars HasForm body :=
    ⟨List.pairwise_singleton _ _, ⟨_, rfl⟩, ⟨List.pairwise_singleton _ _, ⟨_, rfl⟩,
      ⟨⟨List.pairwise_singleton _ _, ⟨_, rfl⟩, trivial, trivial⟩, trivial⟩, trivial⟩, trivial⟩
  have written : Json.write .spaced body = .ok text := rfl
  have read : Json.readChars .exact text.toList = .ok body :=
    Json.read_write_of_hasForm formed written
  let opening : Request := { method := "POST", url := some "http:///batch", headers := [], body }
  let asks : BatchTemplate := ⟨[{ url := "x" }], none⟩
  have opened : r.opening target body = .ok opening := rfl
  have failed : batchOutcome {} gateway ⟨(), []⟩ opening asks =
      Outcome.fail (.dispatch "GET" "x" "refused") := by
    have recorded : (History.after opening []).document = .ok (pastDocument opening []) :=
      History.document_of_holds ⟨⟨Headers.isJson_nil, formed⟩, nofun⟩
        ⟨⟨Headers.isJson_nil, formed⟩, nofun⟩
    have built : ({} : Builder).buildRequest { url := "x" } (pastDocument opening []) =
      .ok { url := some "x" } := rfl
    have start : Stage.Reached {} gateway opening asks ⟨(), []⟩
      ⟨[], pastDocument opening [], ⟨(), []⟩⟩ := .start recorded
    have unanswered : (gateway.exchange 0 1 { url := some "x" }).run.run ⟨(), []⟩ =
      (Outcome.fail (.dispatch "GET" "x" "refused"), _) := Recorder.run_exchange_error rfl
    rw [batchOutcome, start.run_of_stops (.unanswered rfl built unanswered)]
    rfl
  obtain ⟨reply, made, tells⟩ := Reply.exists_error 502 "GET x failed: refused"
  have outcome : ((r.runBatch {} gateway target text.toList).run.run ⟨(), []⟩).1 = .ok reply := by
    have brought : r.runBatch {} gateway target text.toList =
        runTemplate {} gateway r target body asks := by
      rw [runBatch, read]
      rfl
    rw [brought, run_runTemplate opened, failed]
    exact made
  refine ⟨answers, reply, outcome, ?_, tells⟩
  rcases isAnswered_or_escapes 100 r target text clock () answers with
    ⟨other, same, answered⟩ | ⟨d, broken, -⟩
  · cases outcome.symm.trans same
    exact answered
  · cases outcome.symm.trans broken

/-- A body whose number cannot be held gets no reply. -/
theorem not_answered_of_number :
    let dispatch (_ : Request) (_ : Unit) : Outcome Response × Unit := (.ok {}, ())
    let clock (_ : Unit) : Binary64 × Unit := (.zero false, ())
    let r : Incoming := ⟨"POST", "/batch", [], []⟩
    let outcome := ((r.runBatch {} (Recorder.recording dispatch clock) {}
      "1e9999999999999999999".toList).run.run ⟨(), []⟩).1
    (∀ request world, IsAnswer (dispatch request world).1) ∧
    outcome = .error (.defect .invalidOperation) ∧ ¬∃ reply, outcome = .ok reply := by
  intro dispatch clock r outcome
  have read : Json.readChars .exact "1e9999999999999999999".toList =
    .error (.defect .invalidOperation) := rfl
  have broken : outcome = .error (.defect .invalidOperation) := by
    dsimp only [outcome]
    rw [runBatch, read]
    rfl
  refine ⟨fun request world => .inl ⟨{}, rfl, nofun, nofun, trivial⟩, broken, ?_⟩
  rintro ⟨reply, made⟩
  rw [broken] at made
  cases made

end Incoming

end Stencil
