import Stencil.Text.Case

/-!
# Header lines

The headers of a message as they are sent: lines of a name and a value, in order. A name may come
more than once, and names are compared without regard to letter case.
-/

namespace Stencil.Http

/-- The header lines of a message. -/
abbrev Lines := List (String × String)

namespace Lines

/-- Whether two names are the same but for letter case. -/
def sameName (a b : String) : Bool := Text.lower a = Text.lower b

/-- Every name is the same as itself. -/
theorem sameName_self (name : String) : sameName name name = true := by simp [sameName]

/-- Whether there is a line with a name. -/
def has (lines : Lines) (name : String) : Bool := lines.any fun line => sameName line.1 name

/-- The values of a name, joined by commas. -/
def combined? (lines : Lines) (name : String) : Option String :=
  match (lines.filter fun line => sameName line.1 name).map Prod.snd with
  | [] => none
  | values => some (", ".intercalate values)

/-- Lines in place of those with the same names. -/
def overriding (defaults lines : Lines) : Lines :=
  (defaults.filter fun line => !has lines line.1) ++ lines

/-- The lines with a single one of a name: it takes the place of the first one, or comes last. -/
def put (lines : Lines) (name value : String) : Lines :=
  match lines with
  | [] => [(name, value)]
  | line :: rest =>
    if sameName line.1 name then
      (name, value) :: rest.filter fun other => !sameName other.1 name
    else line :: put rest name value

/-- The lines with one that is there already left alone, or else added at the end. -/
def putDefault (lines : Lines) (name value : String) : Lines :=
  if has lines name then lines else lines ++ [(name, value)]

/-- Whether all characters of the lines are ASCII. -/
def isAscii (lines : Lines) : Bool :=
  lines.all fun line => (line.1 ++ line.2).toList.all fun c => decide (c.toNat < 128)

/-- The values of each name in lower case, in the order in which the names first come. -/
def grouped (lines : Lines) : List (String × List String) :=
  lines.foldl (fun groups line =>
    let name := Text.lower line.1
    if groups.any (fun group => group.1 = name) then
      groups.map fun group => if group.1 = name then (name, group.2 ++ [line.2]) else group
    else groups ++ [(name, [line.2])]) []

end Lines

end Stencil.Http
