import Stencil.Cli.Run

/-!
# The program

Reads the files that a command line names, does what it asks for, and writes what was written to the
two consoles. No network is attached: a request is answered by a failure, and serving ends at once.
-/

namespace Stencil.Cli

/-- The names of the files that an invocation reads. -/
def Invocation.files (i : Invocation) : List String :=
  i.config.toList ++
    match i.command with
    | .build schema document => schema :: document.toList
    | .run template request => template :: request.toList
    | .serve .. => []

/-- What stands under a name on disk. What is there but cannot be read counts as a directory. -/
def readEntry (name : String) : IO FileEntry := do
  try
    return .file (← IO.FS.readFile name)
  catch
    | .noFileOrDirectory .. => return .missing
    | _ => return .directory

/-- A command's surroundings: the files that have been read, shown by their full names, and no
network. -/
def surroundings (directory : String) (entries : List (FileName × FileEntry)) : Environment Unit :=
  { directory := {
      find := fun name => (entries.lookup name).getD .missing
      shown := FileName.resolve directory }
    transport := fun _ => pure (.error "No network is attached")
    now := pure (.zero false)
    serve := fun _ _ _ => pure false }

end Stencil.Cli

open Stencil in
/-- Does what a command line asks for and ends with its status. -/
def main (args : List String) : IO UInt32 := do
  let names := match Cli.Invocation.ofArguments args with
    | .ok i => i.files
    | .error _ => []
  let entries ← names.mapM fun name => return (FileName.ofString name, ← Cli.readEntry name)
  let directory := (← IO.currentDir).toString
  let (result, session) := (Cli.run (Cli.surroundings directory entries) args).run.run
    { online := { outside := () } }
  IO.print session.out
  IO.eprint session.err
  match result with
  | .ok status => return status.toUInt32
  | .error _ =>
    IO.eprintln "The command broke down"
    return 1
