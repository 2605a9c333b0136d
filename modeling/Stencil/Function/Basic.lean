import Stencil.Cast

/-!
# Functions

A function has a name, the types it can produce, and the least number of arguments it takes. Its
arguments are evaluated before it is called; a call among the arguments of another one asks for no
particular type.
-/

namespace Stencil

/-- A function that expressions may call. -/
structure Function where
  /-- The name in expressions. -/
  name : String
  /-- The types that the function produces. -/
  types : List Tag
  /-- The least number of arguments. -/
  minArguments : Int := 1
  /-- The result for a requested type and evaluated arguments. -/
  apply : Option Tag → List Value → Outcome Value

namespace Function

/-- The type in a request that the function does not produce. -/
def refused? (f : Function) (tag : Option Tag) : Option Tag :=
  tag.filter fun tag => !f.types.contains tag

/-- Calls a function, provided that it produces the requested type and has enough arguments. -/
def invoke (f : Function) (tag : Option Tag) (arguments : List Value) : Outcome Value :=
  match f.refused? tag with
  | some tag => Outcome.fail (.unsupportedType f.name tag)
  | none =>
    if (arguments.length : Int) < f.minArguments then
      Outcome.fail (.tooFewArguments f.name f.minArguments arguments.length)
    else f.apply tag arguments

end Function

end Stencil
