import Stencil.Batch.Template
import Stencil.File

/-!
# Batches in files

A template or an opening request is read from a file and checked for its shape. A template file can
also be checked alone; then a problem with its shape is the answer and no failure.
-/

namespace Stencil

/-- The template in a file. -/
def BatchTemplate.load (d : Directory) (name : FileName) : Outcome BatchTemplate := do
  BatchTemplate.ofValue (some (d.shown name)) (← d.read name)

/-- The opening request in a file. -/
def Request.load (d : Directory) (name : FileName) : Outcome Request := do
  Request.ofValue (some (d.shown name)) (← d.read name)

/-- What is wrong with a template file, if anything is. -/
def BatchTemplate.problem? (d : Directory) (name : FileName) : Outcome (Option String) :=
  match d.find name with
  | .missing => Except.ok (some ("File not found: " ++ d.shown name))
  | .directory => Except.ok (some ("Not a file: " ++ d.shown name))
  | .file _ =>
    match BatchTemplate.load d name with
    | .ok _ => Except.ok none
    | .error (.error (.config problem source)) =>
      Except.ok (some (Error.config problem source).message)
    | .error failure => Except.error failure

end Stencil
