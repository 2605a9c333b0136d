import Stencil.Expression.Token

/-!
# Call trees

A call as a tree: a function's name and its arguments, each a path, a literal, or a call again.
Flattening gives the tokens of the call; writing it as text leaves the separators between the
arguments free.
-/

namespace Stencil.Expression

/-- An argument of a call. -/
inductive Argument where
  /-- A path query. -/
  | path (text : String)
  /-- A literal. -/
  | raw (text : String)
  /-- A call of the named function. -/
  | call (name : String) (arguments : List Argument)
  deriving Repr

namespace Argument

mutual

/-- The tokens of an argument. -/
def flatten : Argument → List Token
  | .path text => [.path text]
  | .raw text => [.raw text]
  | .call name arguments => .call name :: flattenAll arguments ++ [.close]
  termination_by structural a => a

/-- The tokens of arguments in order. -/
def flattenAll : List Argument → List Token
  | [] => []
  | argument :: rest => flatten argument ++ flattenAll rest
  termination_by structural arguments => arguments

end

end Argument

end Stencil.Expression
