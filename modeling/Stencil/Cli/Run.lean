import Stencil.Batch.Load
import Stencil.Cli.Arguments
import Stencil.Console.Report
import Stencil.Http.Client
import Stencil.Settings

/-!
# Running commands

A command reads its files, does its work and writes to a console. An error is written to the error
console and ends the command with status 1; an interruption ends it with status 130. A command line
that cannot be used ends with status 2 before anything is done.

The two consoles hold what a command prints itself, line by line. Two things are left out. One is
the log, of which the lines go to the error console as well: there is one for a schema that is
refused, and with `--verbose`, which changes nothing else, there is one for each part of a build and
each request. The other is the breaking of lines that are longer than the console is wide.
-/

namespace Stencil.Cli

/-- What a command needs from outside. -/
structure Environment (σ : Type) where
  /-- The files. -/
  directory : Directory
  /-- What carries requests. -/
  transport : Http.Transport σ
  /-- The time in seconds, by which responses are timed. -/
  now : StateM σ Binary64
  /-- Serves batches with a depth limit on a port and an interface; the answer tells whether it was
  interrupted. -/
  serve : Int → Int → String → StateM σ Bool
  /-- The present, by which cookies are over. -/
  clock : Http.Clock σ := fun _ => {}

/-- What a command has written, the log aside, and what it works with. -/
structure Session (σ : Type) where
  /-- What was written to the console. -/
  out : String := ""
  /-- What was written to the error console, without the lines of the log. -/
  err : String := ""
  /-- The request that was sent last. -/
  current : Option Request := none
  /-- The client's cookies and what lies outside. -/
  online : Http.Online σ

/-- A step of a command. -/
abbrev Step (σ α : Type) := Action (Session σ) α

namespace Step

/-- Writes to the console. -/
def print {σ : Type} (text : Outcome String) : Step σ Unit := do
  let text ← Action.lift text
  modify fun s => { s with out := s.out ++ text }

/-- Writes to the error console. -/
def complain {σ : Type} (text : Outcome String) : Step σ Unit := do
  let text ← Action.lift text
  modify fun s => { s with err := s.err ++ text }

/-- Does something outside. -/
def outside {σ α : Type} (act : StateM σ α) : Step σ α := do
  let s ← get
  let (a, after) := act.run s.online.outside
  set { s with online := { s.online with outside := after } }
  return a

/-- Sends a request. -/
def send {σ : Type} (client : Http.Client) (transport : Http.Transport σ)
    (clock : Http.Clock σ) (request : Request) : Step σ Response := do
  let s ← get
  let (result, online) := (client.dispatch transport request clock).run.run s.online
  set { s with online }
  Action.lift result

end Step

/-- What a batch needs from outside: requests and responses are reported on the console. -/
def gateway {σ : Type} (e : Environment σ) (client : Http.Client) : Gateway (Session σ) :=
  { dispatch := Step.send client e.transport e.clock
    onRequest := fun index total request => do
      modify fun s => { s with current := some request }
      Step.print (Console.requestLine index total request)
    onResponse := fun index total response seconds => do
      let s ← get
      Step.print (Console.responseLine s.current index total response seconds)
    now := Step.outside e.now }

/-- The settings that apply. -/
def settings {σ : Type} (e : Environment σ) (config : Option String) : Step σ Settings :=
  Action.lift (Settings.load e.directory (config.map FileName.ofString))

/-- The client that settings describe. -/
def clientOf {σ : Type} (s : Settings) : Step σ Http.Client :=
  Action.lift (Http.Client.create s.baseUrl (.object s.defaultHeaders))

/-- Builds a schema for a document and prints the result. -/
def runBuild {σ : Type} (e : Environment σ) (config : Option String) (schema : String)
    (document : Option String) : Step σ Nat := do
  let s ← settings e config
  let schema ← Action.lift (e.directory.read (FileName.ofString schema))
  let document ← match document with
    | some file => Action.lift (e.directory.read (FileName.ofString file))
    | none => Action.lift (Outcome.defect .type)
  let b : Builder := { maxDepth := s.maxDepth }
  let built ← Action.lift (b.buildPlain schema document)
  Step.print (Console.jsonBlock built)
  return 0

/-- Prints what is shown of a response, part by part. -/
def printParts {σ : Type} : List (Outcome String) → Step σ Unit
  | [] => pure ()
  | part :: rest => do
    Step.print part
    printParts rest

/-- Runs a batch template and prints its response. The template is checked before anything is
sent. -/
def runBatch {σ : Type} (e : Environment σ) (config : Option String) (template : String)
    (request : Option String) : Step σ Nat := do
  let s ← settings e config
  let name := FileName.ofString template
  match ← Action.lift (BatchTemplate.problem? e.directory name) with
  | some problem => do
    Step.complain (Console.errorLine ("Invalid batch template: " ++ problem))
    return 1
  | none => do
    let template ← Action.lift (BatchTemplate.load e.directory name)
    let opening ← match request with
      | none => pure {}
      | some file => Action.lift (Request.load e.directory (FileName.ofString file))
    let client ← clientOf s
    let b : Builder := { maxDepth := s.maxDepth }
    let response ← b.runBatch (gateway e client) opening template
    printParts (Console.responseParts response)
    return 0

/-- The line that tells where batches are served. -/
def listeningLine (port : Int) (host : String) : Outcome String :=
  Console.line ("[bold]jsonbatch[/bold] listening on [cyan]http://".toList ++ host.toList ++
    ':' :: Number.intText port ++ "/batch[/cyan]".toList)

/-- Serves batches until interrupted. -/
def runServe {σ : Type} (e : Environment σ) (config : Option String) (port : Int)
    (host : String) : Step σ Nat := do
  let s ← settings e config
  let _ ← clientOf s
  Step.print (listeningLine port host)
  if ← Step.outside (e.serve s.maxDepth port host) then do
    Step.complain (Except.ok "\nInterrupted\n")
    return 130
  else return 0

/-- Does what a command asks for. -/
def perform {σ : Type} (e : Environment σ) (i : Invocation) : Step σ Nat :=
  match i.command with
  | .build schema document => runBuild e i.config schema document
  | .run template request => runBatch e i.config template request
  | .serve port host => runServe e i.config port host

/-- The message of a failure that is meant for the user. -/
def userMessage? : Failure → Option String
  | .error e => some e.message
  | .missingFile path => some (Failure.missingFileMessage path)
  | _ => none

/-- Does what a command line asks for and gives the exit status. -/
def run {σ : Type} (e : Environment σ) (args : List String) : Step σ Nat :=
  match Invocation.ofArguments args with
  | .error .help => pure 0
  | .error .misuse => pure 2
  | .ok i =>
    tryCatch (perform e i) fun failure =>
      match userMessage? failure with
      | some message => do
        Step.complain (Console.errorLine message)
        return 1
      | none => throw failure

end Stencil.Cli
