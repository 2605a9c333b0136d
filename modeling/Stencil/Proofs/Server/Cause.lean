import Stencil.Proofs.Server.Answer

/-!
# Why a batch request is answered as it is

Where a handler returns, the cause decides the reply. A body that is no JSON, that holds no template
or whose template is refused is told of with status 400, and nothing is sent for it. Otherwise the
run is that of the template for the incoming request: a step without response is told of with status
502, any other error with status 400, and a response is sent as it is. This holds for every
dispatcher, however it answers and fails.
-/

namespace Stencil

open Json (HasForm)
open Value (AllScalars)

namespace Reply

/-- Telling of an error changes no state. -/
theorem tells_of_run_error {σ : Type} {status : Int} {message : String} {reply : Reply} {s s' : σ}
    (returns : (Action.lift (error status message)).run.run s = (.ok reply, s')) :
    reply.Tells status message ∧ s' = s := by
  obtain ⟨made, told, tells⟩ := exists_error status message
  rw [Action.run_lift, told] at returns
  cases returns
  exact ⟨tells, rfl⟩

end Reply

namespace Incoming

section Branches

/-- Content that is not empty and names no charset has the text that it spells. -/
theorem text?_of_utf8 {r : Incoming} {text : List Char}
    (plain : r.charsetName = .ok "utf-8".toList)
    (chars : r.content.isEmpty = false ∧
      Charset.strict? (Charset.readUtf8 false r.content) = some text) :
    r.text? = .ok (some text) := by
  have named : Charset.named? "utf-8".toList = some (.charset .units8) := by rfl
  have filled : ¬r.content.isEmpty := by rw [chars.1]; decide
  rw [text?, plain, Outcome.ok_bind, if_neg (by decide), if_neg filled, named]
  dsimp only [Charset.units8, Charset.ofPieces]
  rw [chars.2]
  rfl

variable {σ : Type} (b : Builder) (gateway : Gateway σ) (r : Incoming) (target : Http.Target)
variable {text : String} {body v : Value}

/-- A body that is no JSON is told of. -/
theorem runBatch_of_unreadable {fault : Json.Fault} (read : Json.read text = .error (.json fault)) :
    r.runBatch b gateway target text.toList =
      Action.lift (Reply.error 400 ("Invalid JSON body: " ++ fault.message)) := by
  have read : Json.readChars .exact text.toList = .error (.json fault) := read
  rw [runBatch, read]

/-- A body without a template is told of. -/
theorem runBatch_of_missing (read : Json.read text = .ok body) (without : template? body = none) :
    r.runBatch b gateway target text.toList =
      Action.lift (Reply.error 400 "Request body must contain a 'template' object") := by
  have read : Json.readChars .exact text.toList = .ok body := read
  rw [runBatch, read]
  cases body with
  | object members =>
    have without : Fields.find? members "template" = none := without
    dsimp only
    rw [without]
  | _ => rfl

/-- A body with a template goes on with what the template is read as. -/
theorem runBatch_of_held (read : Json.read text = .ok body) (held : template? body = some v) :
    r.runBatch b gateway target text.toList =
      match BatchTemplate.ofValue (some "template") v with
      | .ok template => runTemplate b gateway r target body template
      | .error (.error e) => Action.lift (Reply.error 400 e.message)
      | .error failure => throw failure := by
  have read : Json.readChars .exact text.toList = .ok body := read
  rw [runBatch, read]
  cases body with
  | object members =>
    have held : Fields.find? members "template" = some v := held
    dsimp only
    generalize Fields.find? members "template" = found at held
    cases held
    rfl
  | _ => cases held

end Branches

section

variable {τ : Type} (b : Builder) (dispatch : Request → τ → Outcome Response × τ)
variable (clock : τ → Binary64 × τ) (r : Incoming) (target : Http.Target) (text : String)
variable (world : τ) (reply : Reply) (after : Recorder τ)

/-- A request is rejected: it is told why with status 400, and nothing has happened. -/
structure IsRejected (message : String) : Prop where
  /-- The reply tells why. -/
  tells : reply.Tells 400 message
  /-- Nothing is announced or sent, and the world is as it was. -/
  unseen : after = ⟨world, []⟩

/-- A reply comes from a run, of which the outcome and what is seen are given. -/
structure IsPerformed (run : Outcome Response × Recorder τ) : Prop where
  /-- What is seen until the reply, the requests sent among it, is what is seen of the run. -/
  seen : after = run.2
  /-- A step without response is told of with status 502. -/
  undispatched : ∀ method url reason, run.1 = .error (.error (.dispatch method url reason)) →
    reply.Tells 502 (Error.dispatch method url reason).message
  /-- Any other error is told of with status 400. -/
  failed : ∀ e, run.1 = .error (.error e) →
    (∀ method url reason, e ≠ .dispatch method url reason) → reply.Tells 400 e.message
  /-- A response is sent. -/
  responded : ∀ response, run.1 = .ok response → reply.Sends response
  /-- The run ends with a response or with an error. -/
  ends : (∃ response, run.1 = .ok response) ∨ ∃ e, run.1 = .error (.error e)

/-- A reply and what is seen until it is made are decided by a cause. -/
structure IsClassified : Prop where
  /-- A body that is no JSON is rejected. -/
  unreadable : ∀ fault, Json.read text = .error (.json fault) →
    IsRejected world reply after ("Invalid JSON body: " ++ fault.message)
  /-- A body that is no object or lacks a template is rejected. -/
  missing : ∀ body, Json.read text = .ok body → template? body = none →
    IsRejected world reply after "Request body must contain a 'template' object"
  /-- A template that is refused is rejected. -/
  refused : ∀ body v e, Json.read text = .ok body → template? body = some v →
    BatchTemplate.ofValue (some "template") v = .error (.error e) →
    IsRejected world reply after e.message
  /-- Any other template is run, with the method, the address and the headers of the request and its
  whole body as the opening request. -/
  performed : ∀ body v template, Json.read text = .ok body → template? body = some v →
    BatchTemplate.ofValue (some "template") v = .ok template →
    ∃ url, r.url target = .ok url ∧ IsPerformed reply after (recordedRun b dispatch clock
      { method := r.method, url := some url, headers := r.headers, body } world template)
  /-- One of these is the case. -/
  cause : (∃ fault, Json.read text = .error (.json fault)) ∨
    ∃ body, Json.read text = .ok body ∧ (template? body = none ∨ ∃ v, template? body = some v ∧
      ((∃ e, BatchTemplate.ofValue (some "template") v = .error (.error e)) ∨
        ∃ template, BatchTemplate.ofValue (some "template") v = .ok template))

end

section

variable {τ : Type} {b : Builder} {dispatch : Request → τ → Outcome Response × τ}
variable {clock : τ → Binary64 × τ} {r : Incoming} {target : Http.Target} {text : String}
variable {body : Value} {world : τ} {reply : Reply} {after : Recorder τ}

/-- Only an error is replied to: with status 502 if it is a missing response, and else with status
400. -/
theorem tells_of_replyOf {failure : Failure} (made : replyOf failure = .ok reply) :
    (∃ method url reason, failure = .error (.dispatch method url reason) ∧
      reply.Tells 502 (Error.dispatch method url reason).message) ∨
    ∃ e, failure = .error e ∧ (∀ method url reason, e ≠ .dispatch method url reason) ∧
      reply.Tells 400 e.message := by
  have tells {status : Int} {message : String} (made : Reply.error status message = .ok reply) :
      reply.Tells status message := by
    obtain ⟨other, told, tells⟩ := Reply.exists_error status message
    cases told.symm.trans made
    exact tells
  cases failure with
  | error e =>
    cases e with
    | dispatch method url reason => exact .inl ⟨method, url, reason, rfl, tells made⟩
    | _ => exact .inr ⟨_, rfl, nofun, tells made⟩
  | _ => cases made

/-- A reply that is made of the outcome of a run comes from the run. -/
theorem isPerformed_of_outcome {run : Outcome Response × Recorder τ}
    (made : (match run.1 with
      | .ok response => Reply.ofResponse response
      | .error failure => replyOf failure) = .ok reply) (seen : run.2 = after) :
    IsPerformed reply after run := by
  obtain ⟨outcome, state⟩ := run
  cases outcome with
  | ok response =>
    refine ⟨seen.symm, nofun, nofun, fun other same => ?_, .inl ⟨response, rfl⟩⟩
    cases same
    exact Reply.sends_of_ofResponse made
  | error failure =>
    rcases tells_of_replyOf made with ⟨method, url, reason, rfl, tells⟩ | ⟨e, rfl, other, tells⟩
    · refine ⟨seen.symm, fun _ _ _ same => ?_, fun e same apart => ?_, nofun, .inr ⟨_, rfl⟩⟩
      · cases same
        exact tells
      · cases same
        exact absurd rfl (apart method url reason)
    · refine ⟨seen.symm, fun method url reason same => ?_, fun _ same _ => ?_, nofun,
        .inr ⟨e, rfl⟩⟩
      · cases same
        exact absurd rfl (other method url reason)
      · cases same
        exact tells

/-- A reply to a template that is run comes from the run. -/
theorem isPerformed_of_runTemplate {template : BatchTemplate}
    (returns : (runTemplate b (Recorder.recording dispatch clock) r target body template).run.run
      ⟨world, []⟩ = (.ok reply, after)) :
    ∃ url, r.url target = .ok url ∧ IsPerformed reply after (recordedRun b dispatch clock
      { method := r.method, url := some url, headers := r.headers, body } world template) := by
  rcases r.exists_url_or_defect target with ⟨url, address⟩ | ⟨d, broken⟩
  · have opened : r.opening target body =
        .ok { method := r.method, url := some url, headers := r.headers, body } := by
      rw [opening, address]
      rfl
    rw [run_runTemplate_eq opened] at returns
    obtain ⟨made, seen⟩ := Prod.mk.inj returns
    exact ⟨url, address, isPerformed_of_outcome made seen⟩
  · rw [runTemplate, opening, broken] at returns
    cases returns

/-- A reply to a request that brings a batch is decided by its cause. -/
theorem isClassified_of_runBatch
    (returns : (r.runBatch b (Recorder.recording dispatch clock) target text.toList).run.run
      ⟨world, []⟩ = (.ok reply, after)) :
    IsClassified b dispatch clock r target text world reply after := by
  have told {status : Int} {message : String}
      (run : (Action.lift (Reply.error status message)).run.run (⟨world, []⟩ : Recorder τ) =
        (.ok reply, after)) : reply.Tells status message ∧ after = ⟨world, []⟩ :=
    Reply.tells_of_run_error run
  refine ⟨fun fault read => ?_, fun body read without => ?_, fun body v e read held refuses => ?_,
    fun body v template read held reads => ?_, ?_⟩
  · rw [runBatch_of_unreadable _ _ _ _ read] at returns
    exact ⟨(told returns).1, (told returns).2⟩
  · rw [runBatch_of_missing _ _ _ _ read without] at returns
    exact ⟨(told returns).1, (told returns).2⟩
  · rw [runBatch_of_held _ _ _ _ read held, refuses] at returns
    exact ⟨(told returns).1, (told returns).2⟩
  · rw [runBatch_of_held _ _ _ _ read held, reads] at returns
    exact isPerformed_of_runTemplate returns
  · cases read : Json.read text with
    | error failure =>
      have read' : Json.readChars .exact text.toList = .error failure := read
      cases failure with
      | json fault => exact .inl ⟨fault, rfl⟩
      | _ =>
        rw [runBatch, read'] at returns
        cases returns
    | ok body =>
      refine .inr ⟨body, rfl, ?_⟩
      cases held : template? body with
      | none => exact .inl rfl
      | some v =>
        refine .inr ⟨v, rfl, ?_⟩
        rw [runBatch_of_held _ _ _ _ read held] at returns
        cases reads : BatchTemplate.ofValue (some "template") v with
        | ok template => exact .inr ⟨template, rfl⟩
        | error failure =>
          rw [reads] at returns
          cases failure with
          | error e => exact .inl ⟨e, rfl⟩
          | _ => cases returns

end

/-- Where the handler of a posted batch returns, the content of the request has a text, and the
reply and everything seen until then, the requests sent among it, are decided by its cause. A text
that is no JSON, that is no object with a template, or whose template is refused, is told of with
status 400, and nothing has happened. Any other template is run, for an opening request of the
method, the address and the headers of the incoming one with its whole body, and what is seen is
what is seen of that run. If it ends with the error of a step without response, that is told of with
status 502; if it ends with any other error, that is told of with status 400; and if it has a
response, that is sent, with status 200 if it has none or zero. The dispatcher may answer and fail
in any way. -/
theorem isClassified_of_answer {τ : Type} {b : Builder}
    {dispatch : Request → τ → Outcome Response × τ} {clock : τ → Binary64 × τ} {r : Incoming}
    {target : Http.Target} {world : τ} {reply : Reply} {after : Recorder τ}
    (found : r.targetOf = .ok target) (posted : route r.method target.path = .batch)
    (returns : (r.answer b (Recorder.recording dispatch clock)).run.run ⟨world, []⟩ =
      (.ok (.reply reply), after)) :
    ∃ text, r.text? = .ok (some text) ∧
      IsClassified b dispatch clock r target (String.ofList text) world reply after := by
  rw [answer, found, Action.lift_ok_bind, posted] at returns
  dsimp only at returns
  cases content : r.text? with
  | error failure =>
    rw [content, Action.run_lift_error_bind] at returns
    cases returns
  | ok text =>
    rw [content, Action.lift_ok_bind] at returns
    cases text with
    | none => cases returns
    | some text =>
      refine ⟨text, rfl, isClassified_of_runBatch ?_⟩
      rw [String.toList_ofList]
      dsimp only at returns
      cases run : (r.runBatch b (Recorder.recording dispatch clock) target text).run.run
          ⟨world, []⟩ with
      | mk outcome state =>
        cases outcome with
        | error failure =>
          rw [Action.run_bind_error run] at returns
          cases returns
        | ok made =>
          rw [Action.run_bind_ok run] at returns
          cases returns
          rfl

/-- A batch of one step that describes status 0 for its response is answered with status 200, and
what is seen is the exchange of the step. -/
theorem isClassified_of_answer_step :
    let text := "\x7b\"template\": \x7b\"requests\": [\x7b\"url\": \"x\"\x7d], " ++
      "\"response\": \x7b\"status\": \"int 0\"\x7d\x7d\x7d"
    let dispatch (_ : Request) (_ : Unit) : Outcome Response × Unit := (.ok {}, ())
    let clock (_ : Unit) : Binary64 × Unit := (.zero false, ())
    let r : Incoming :=
      ⟨"POST", "/batch", [], text.toList.map fun c => UInt8.ofNat c.toNat⟩
    let target : Http.Target := { path := "/batch".toList }
    let reply : Reply := ⟨200, [Reply.jsonLine], "null"⟩
    let seen : Recorder Unit := ⟨(), Event.ofExchange 1 0 ({ url := some "x" }, {})⟩
    r.targetOf = .ok target ∧ route r.method target.path = .batch ∧
      (r.answer {} (Recorder.recording dispatch clock)).run.run ⟨(), []⟩ =
        (.ok (.reply reply), seen) ∧
      IsClassified {} dispatch clock r target text () reply seen := by
  intro text dispatch clock r target reply seen
  have found : r.targetOf = .ok target := by
    have spelled : Http.Target.ofText "/batch".toList = .ok target := by rfl
    rw [targetOf, spelled]
    rfl
  have posted : route r.method target.path = .batch := by rfl
  have content : r.text? = .ok (some text.toList) := text?_of_utf8 rfl (by decide +kernel)
  let template : Value := .object [(.text "requests", .list [.object [(.text "url", .text "x")]]),
    (.text "response", .object [(.text "status", .text "int 0")])]
  let body : Value := .object [(.text "template", template)]
  have formed : AllScalars HasForm body :=
    ⟨List.pairwise_singleton _ _, ⟨_, rfl⟩, ⟨by simp [Fields.AreDistinct, Key.same_text],
      ⟨_, rfl⟩, ⟨⟨List.pairwise_singleton _ _, ⟨_, rfl⟩, trivial, trivial⟩, trivial⟩, ⟨_, rfl⟩,
      ⟨List.pairwise_singleton _ _, ⟨_, rfl⟩, trivial, trivial⟩, trivial⟩, trivial⟩
  have written : Json.write .spaced body = .ok text := rfl
  have read : Json.readChars .exact text.toList = .ok body :=
    Json.read_write_of_hasForm formed written
  let opening : Request := { method := "POST", url := some "http:///batch", headers := [], body }
  let asks : BatchTemplate := ⟨[{ url := "x" }], some { status := some (.text "int 0") }⟩
  have opened : r.opening target body = .ok opening := rfl
  have complete : recordedRun {} dispatch clock opening () asks =
      (.ok { status := some 0 }, seen) := by
    have begun : History.Holds HasForm opening [] := .start ⟨Headers.isJson_nil, formed⟩
    have begun' : History.Holds Json.IsShown opening [] := .start ⟨Headers.isJson_nil, formed⟩
    have recorded : (History.after opening []).document = .ok (pastDocument opening []) :=
      History.document_of_holds begun begun'
    have start : Stage.Reached {} (Recorder.recording dispatch clock) opening asks ⟨(), []⟩
      ⟨[], pastDocument opening [], ⟨(), []⟩⟩ := .start recorded
    have built : ({} : Builder).buildRequest { url := "x" } (pastDocument opening []) =
      .ok { url := some "x" } := rfl
    let past : List (Request × Response) := [({ url := some "x" }, {})]
    have recorded' : (History.after opening past).document = .ok (pastDocument opening past) :=
      History.document_of_holds
        (begun.concat ⟨Headers.isJson_nil, trivial⟩ ⟨nofun, nofun, trivial⟩)
        (begun'.concat ⟨Headers.isJson_nil, trivial⟩ ⟨nofun, nofun, trivial⟩)
    have step : Stage.Reached {} (Recorder.recording dispatch clock) opening asks ⟨(), []⟩
      ⟨past, pastDocument opening past, seen⟩ :=
      start.step rfl built (Recorder.run_exchange_ok rfl) recorded'
    rw [recordedRun, step.run_of_stops (.complete rfl)]
    rfl
  have returns : (r.answer {} (Recorder.recording dispatch clock)).run.run ⟨(), []⟩ =
      (.ok (.reply reply), seen) := by
    have brought : r.runBatch {} (Recorder.recording dispatch clock) target text.toList =
        runTemplate {} (Recorder.recording dispatch clock) r target body asks := by
      rw [runBatch, read]
      rfl
    have run : (r.runBatch {} (Recorder.recording dispatch clock) target text.toList).run.run
        ⟨(), []⟩ = (.ok reply, seen) := by
      rw [brought, run_runTemplate_eq opened, batchOutcome, ← recordedRun, complete]
      rfl
    rw [answer, found, Action.lift_ok_bind, posted]
    dsimp only
    rw [content, Action.lift_ok_bind]
    dsimp only
    rw [Action.run_bind_ok run]
    rfl
  obtain ⟨other, same, classified⟩ := isClassified_of_answer found posted returns
  cases content.symm.trans same
  rw [String.ofList_toList] at classified
  exact ⟨found, posted, returns, classified⟩

end Incoming

end Stencil
