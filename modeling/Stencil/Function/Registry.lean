import Stencil.Function.Aggregate

/-!
# Registries of functions

The functions that expressions may call, by name and in the order in which their names were first
registered. A function registered under a name in use takes its place.
-/

namespace Stencil

/-- The functions that expressions may call. -/
structure Registry where
  /-- The functions in order, no two of one name. -/
  functions : List Function

namespace Registry

/-- A registry without functions. -/
def empty : Registry := ⟨[]⟩

/-- The functions with one put in the place of the one with its name, or last. -/
def place (f : Function) : List Function → List Function
  | [] => [f]
  | g :: rest => if g.name = f.name then f :: rest else g :: place f rest

/-- Adds a function, or replaces the one with its name. -/
def register (registry : Registry) (f : Function) : Registry := ⟨place f registry.functions⟩

/-- A registry of the given functions. -/
def ofList (functions : List Function) : Registry := functions.foldl register empty

/-- The functions that every registry starts with unless told otherwise. -/
def builtins : List Function := [.sum, .min, .max, .average, .count, .concat]

/-- The registry of the functions that come with the library. -/
def standard : Registry := ofList builtins

/-- The names of the functions in order. -/
def available (registry : Registry) : List String := registry.functions.map Function.name

/-- The function with a name. -/
def find? (registry : Registry) (name : String) : Option Function :=
  registry.functions.find? fun f => f.name = name

/-- Whether there is a function with a name. -/
def contains (registry : Registry) (name : String) : Bool := (registry.find? name).isSome

/-- The function with a name, or the error that names all functions. -/
def get (registry : Registry) (name : String) : Outcome Function :=
  match registry.find? name with
  | some f => Except.ok f
  | none => Outcome.fail (.unknownFunction name registry.available)

end Registry

end Stencil
