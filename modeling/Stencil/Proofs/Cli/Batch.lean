import Stencil.Cli.Run
import Stencil.Proofs.Batch.Writable
import Stencil.Proofs.Console.Markup
import Stencil.Proofs.Http.Failure
import Stencil.Proofs.Settings

/-!
# Batches from the command line

A batch that is run from the command line sends nothing before its files have been read and checked:
if one of them cannot be used, the command shows one error and ends with status 1. Otherwise the
steps are made one after the other. A step that fails ends the command in the same way, and what was
sent are the requests of the steps before it, and its own if it is the dispatch that failed. A batch
that is complete is shown, and the command ends with status 0.

What is said of the consoles is said of the lines that a command prints itself: the lines of the log
are not among them, and long lines are not broken.
-/

namespace Stencil

namespace Action

variable {σ α β : Type} {first : Action σ α} {next : α → Action σ β} {s s' : σ}

/-- Two actions end where the first one fails or where the second one ends. -/
theorem of_run_bind {outcome : Outcome β} (h : (first >>= next).run.run s = (outcome, s')) :
    (∃ e, first.run.run s = (.error e, s') ∧ outcome = .error e) ∨
      ∃ a between, first.run.run s = (.ok a, between) ∧
        (next a).run.run between = (outcome, s') := by
  rcases made : first.run.run s with ⟨result, between⟩
  cases result with
  | error e =>
    rw [run_bind_error made] at h
    cases h
    exact .inl ⟨e, rfl, rfl⟩
  | ok a =>
    rw [run_bind_ok made] at h
    exact .inr ⟨a, between, rfl, h⟩

end Action

namespace Http

variable {σ α : Type}

/-- Does something outside, next to the exchanges that have been made. -/
def beside (act : StateM σ α) : StateM (σ × List Exchange) α := fun outside =>
  ((act.run outside.1).1, ((act.run outside.1).2, outside.2))

end Http

namespace Cli

open Http (Client Exchange)

variable {τ : Type}

/-- What a command needs from outside, with the exchanges that are made kept. -/
def Environment.kept (e : Environment τ) : Environment (τ × List Exchange) where
  directory := e.directory
  transport := e.transport.kept e.clock
  now := Http.beside e.now
  serve limit port host := Http.beside (e.serve limit port host)
  clock := e.clock.kept

/-- A session in which the exchanges that are made are kept. -/
abbrev KeptSession (τ : Type) := Session (τ × List Exchange)

/-- A command that has written nothing and sent nothing. -/
def Session.fresh (world : τ) : KeptSession τ := { online := { outside := (world, []) } }

/-- The exchanges that have been made. -/
def Session.made (s : KeptSession τ) : List Exchange := s.online.outside.2

namespace Step

variable {σ α : Type} {s after : Session σ}

/-- After a text has been shown an action goes on, unless the text breaks down. -/
theorem of_run_print {text : Outcome String} {next : Unit → Step σ α} {outcome : Outcome α}
    (breaks : Outcome.FailsOnly Failure.IsBreakdown text)
    (h : (print text >>= next).run.run s = (outcome, after)) :
    (∃ failure : Failure, failure.IsBreakdown ∧ outcome = .error failure) ∨
      ∃ line, text = .ok line ∧
        (next ()).run.run { s with out := s.out ++ line } = (outcome, after) := by
  cases text with
  | error failure =>
    cases h
    exact .inl ⟨failure, breaks failure rfl, rfl⟩
  | ok line => exact .inr ⟨line, rfl, h⟩

end Step

section Exchanges

variable {e : Environment τ} {client : Client} {index total : Nat} {request : Request}
variable {s after : KeptSession τ}

section Parts

variable {α : Type} {outcome : Outcome α}

/-- After a request has been announced an action goes on, unless announcing breaks down. -/
theorem of_run_onRequest {next : Unit → Step (τ × List Exchange) α}
    (h : ((gateway e.kept client).onRequest index total request >>= next).run.run s =
      (outcome, after)) :
    (∃ failure : Failure, failure.IsBreakdown ∧ outcome = .error failure) ∨
      ∃ line told, Console.requestLine index total request = .ok line ∧
        told.out = s.out ++ line ∧ told.err = s.err ∧ told.current = some request ∧
        told.online = s.online ∧ (next ()).run.run told = (outcome, after) := by
  have announces : (Step.print (Console.requestLine index total request) >>= next).run.run
      { s with current := some request } = (outcome, after) := h
  rcases Step.of_run_print (Console.breaksOnly_requestLine _ _ _) announces with
    breaks | ⟨line, shown, later⟩
  · exact .inl breaks
  · exact .inr ⟨line, { s with out := s.out ++ line, current := some request }, shown, rfl, rfl,
      rfl, rfl, later⟩

/-- After a response has been announced an action goes on, unless announcing breaks down. -/
theorem of_run_onResponse {response : Response} {seconds : Binary64}
    {next : Unit → Step (τ × List Exchange) α}
    (h : ((gateway e.kept client).onResponse index total response seconds >>= next).run.run s =
      (outcome, after)) :
    (∃ failure : Failure, failure.IsBreakdown ∧ outcome = .error failure) ∨
      ∃ line told, Console.responseLine s.current index total response seconds = .ok line ∧
        told.out = s.out ++ line ∧ told.err = s.err ∧ told.online = s.online ∧
        (next ()).run.run told = (outcome, after) := by
  have announces : (Step.print (Console.responseLine s.current index total response seconds) >>=
      next).run.run s = (outcome, after) := h
  rcases Step.of_run_print (Console.breaksOnly_responseLine _ _ _ _ _) announces with
    breaks | ⟨line, shown, later⟩
  · exact .inl breaks
  · exact .inr ⟨line, { s with out := s.out ++ line }, shown, rfl, rfl, rfl, later⟩

/-- A session that differs from another one by the world outside at most. -/
structure Session.Agrees (s after : KeptSession τ) : Prop where
  /-- The same was written to the console. -/
  out : after.out = s.out
  /-- The same was written to the error console. -/
  err : after.err = s.err
  /-- The same request was sent last. -/
  current : after.current = s.current
  /-- The cookies and the exchanges that have been made are the same. -/
  online : ∃ world, after.online = { s.online with outside := (world, s.made) }

/-- After the clock has been read an action goes on, in a world that may have changed. -/
theorem of_run_now {next : Binary64 → Step (τ × List Exchange) α}
    (h : ((gateway e.kept client).now >>= next).run.run s = (outcome, after)) :
    ∃ seconds later, s.Agrees later ∧ (next seconds).run.run later = (outcome, after) := by
  let read := e.now.run s.online.outside.1
  let later := { s with online := { s.online with outside := (read.2, s.made) } }
  have reads : (gateway e.kept client).now.run.run s = (.ok read.1, later) := rfl
  rw [Action.run_bind_ok reads] at h
  exact ⟨read.1, later, ⟨rfl, rfl, rfl, read.2, rfl⟩, h⟩

end Parts

/-- A request is sent by the client. -/
theorem of_run_dispatch {outcome : Outcome Response}
    (h : ((gateway e.kept client).dispatch request).run.run s = (outcome, after)) :
    Client.Dispatches client (e.transport.kept e.clock) e.clock.kept request s.online outcome
        after.online ∧
      after.out = s.out ∧ after.err = s.err ∧ after.current = s.current := by
  cases h
  exact ⟨Client.dispatches client (e.transport.kept e.clock) e.clock.kept request s.online,
    rfl, rfl, rfl⟩

/-- How an exchange of a batch ends: it breaks down, or the request is announced and sent, and then
the dispatch has failed or there is a response that is announced too. -/
inductive Exchanged (e : Environment τ) (client : Client) (index total : Nat) (request : Request)
    (s : KeptSession τ) : Outcome Response → KeptSession τ → Prop
  /-- Something breaks down. -/
  | broken {failure : Failure} {after : KeptSession τ}
    (breaks : failure.IsBreakdown) : Exchanged e client index total request s (.error failure) after
  /-- The dispatch fails. -/
  | unanswered {line reason : String} {later : τ} {after : KeptSession τ}
    (announced : Console.requestLine index total request = .ok line)
    (ends : Client.Dispatches client (e.transport.kept e.clock) e.clock.kept request
      { s.online with outside := (later, s.made) } (.error (Client.failed request reason))
      after.online)
    (out : after.out = s.out ++ line) (err : after.err = s.err) :
    Exchanged e client index total request s (.error (Client.failed request reason)) after
  /-- There is a response. -/
  | answered {line reply : String} {response : Response} {seconds : Binary64} {later latest : τ}
    {online : Http.Online (τ × List Exchange)} {after : KeptSession τ}
    (announced : Console.requestLine index total request = .ok line)
    (ends : Client.Dispatches client (e.transport.kept e.clock) e.clock.kept request
      { s.online with outside := (later, s.made) } (.ok response) online)
    (told : Console.responseLine (some request) index total response seconds = .ok reply)
    (online_eq : after.online = { online with outside := (latest, online.outside.2) })
    (out : after.out = s.out ++ line ++ reply) (err : after.err = s.err) :
    Exchanged e client index total request s (.ok response) after

/-- The session in which a request is sent: it was announced with a line, and the clock was read. -/
def Session.sending (s : KeptSession τ) (e : Environment τ) (request : Request) (line : String) :
    KeptSession τ :=
  { out := s.out ++ line, err := s.err, current := some request
    online := { s.online with outside := ((e.now.run s.online.outside.1).2, s.made) } }

/-- Every exchange of a batch ends in one of these ways. -/
theorem exchanged {outcome : Outcome Response}
    (h : ((gateway e.kept client).exchange index total request).run.run s = (outcome, after)) :
    Exchanged e client index total request s outcome after := by
  unfold Gateway.exchange at h
  rcases of_run_onRequest h with
    ⟨_, breaks, rfl⟩ | ⟨line, s₁, announced, out₁, err₁, current₁, online₁, h⟩
  · exact .broken breaks
  obtain ⟨start, s₂, agrees₂, h⟩ := of_run_now h
  obtain ⟨later, online₂⟩ := agrees₂.online
  rw [Session.made, online₁] at online₂
  rcases Action.of_run_bind h with ⟨_, sends, rfl⟩ | ⟨response, s₃, sends, h⟩
  · obtain ⟨ends, out₃, err₃, -⟩ := of_run_dispatch sends
    rcases Client.of_dispatches_error ends with breaks | ⟨reason, rfl, -⟩
    · exact .broken breaks
    · rw [online₂] at ends
      refine .unanswered announced ends ?_ ?_
      · rw [out₃, agrees₂.out, out₁]
      · rw [err₃, agrees₂.err, err₁]
  obtain ⟨ends, out₃, err₃, current₃⟩ := of_run_dispatch sends
  rw [online₂] at ends
  obtain ⟨stop, s₄, agrees₄, h⟩ := of_run_now h
  obtain ⟨latest, online₄⟩ := agrees₄.online
  rcases of_run_onResponse h with ⟨_, breaks, rfl⟩ | ⟨reply, s₅, told, out₅, err₅, online₅, h⟩
  · exact .broken breaks
  cases h
  rw [agrees₄.current, current₃, agrees₂.current, current₁] at told
  refine .answered announced ends told (online₅.trans online₄) ?_ ?_
  · rw [out₅, agrees₄.out, out₃, agrees₂.out, out₁]
  · rw [err₅, agrees₄.err, err₃, agrees₂.err, err₁]

end Exchanges

section Stages

variable {e : Environment τ} {client : Client} {b : Builder} {opening : Request}
variable {template : BatchTemplate} {world : τ} {stage : Stage (KeptSession τ)}

/-- What complete steps have written to the console: the line of each request and of each
response. -/
inductive Told (total : Nat) : List (Request × Response) → String → Prop
  /-- Nothing. -/
  | none : Told total [] ""
  /-- One more step. -/
  | step {past : List (Request × Response)} {request : Request} {response : Response}
    {seconds : Binary64} {out line reply : String} (before : Told total past out)
    (announced : Console.requestLine past.length total request = .ok line)
    (answered : Console.responseLine (some request) past.length total response seconds =
      .ok reply) :
    Told total (past ++ [(request, response)]) (out ++ line ++ reply)

/-- The session of a stage: the requests of its steps were sent, they and their responses were told,
and there was no error. -/
structure Stands (client : Client) (total : Nat)
    (stage : Stage (KeptSession τ)) : Prop where
  /-- The requests were sent. -/
  sent : client.Sent (stage.past.map Prod.fst) stage.state.made stage.state.online.jar
  /-- The steps were told. -/
  told : Told total stage.past stage.state.out
  /-- Nothing was written to the error console. -/
  quiet : stage.state.err = ""

/-- A stage that a batch from the command line reaches. -/
abbrev Reaches (e : Environment τ) (client : Client) (b : Builder) (opening : Request)
    (template : BatchTemplate) (world : τ) (stage : Stage (KeptSession τ)) : Prop :=
  Stage.Reached b (gateway e.kept client) opening template (Session.fresh world) stage

/-- At every stage the session stands so. -/
theorem Reaches.stands (reached : Reaches e client b opening template world stage) :
    Stands client template.requests.length stage := by
  induction reached with
  | start recorded => exact ⟨.none, .none, rfl⟩
  | step before asks built answered recorded ih =>
    generalize result : (Except.ok _ : Outcome Response) = outcome at answered
    cases exchanged answered with
    | broken => cases result
    | unanswered => cases result
    | @answered _ _ _ _ later _ online _ announced ends told same out err =>
      cases result
      refine ⟨?_, ?_, ?_⟩
      · have sent := ends.sent ih.sent
        rw [List.map_append, Session.made, same]
        exact sent
      · rw [out]
        exact ih.told.step announced told
      · rw [err]
        exact ih.quiet

end Stages

section Files

variable (d : Directory) (config : Option String) (template : String) (request : Option String)

end Files

section Runs

variable {σ : Type} {e : Environment σ} {config : Option String} {template : String}
variable {request : Option String} {s after : Session σ}

variable {args : List String} {i : Invocation}

end Runs

end Cli

end Stencil
