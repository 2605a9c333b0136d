import Stencil.Failure
import Stencil.Path.Parser
import Stencil.Text.Blank

/-!
# Selecting values

A query is run from the document: each step replaces every value selected so far by the values it
selects there, in order. A path text that cannot be read is an error, and so is a step that cannot
be run.
-/

namespace Stencil.Path

mutual

/-- A value and everything below it, each value before what is below it. -/
def descendants : Value → List Value
  | .list items => .list items :: itemDescendants items
  | .object members => .object members :: memberDescendants members
  | v => [v]
  termination_by structural v => v

/-- The items of a list and everything below them. -/
def itemDescendants : List Value → List Value
  | [] => []
  | item :: rest => descendants item ++ itemDescendants rest
  termination_by structural items => items

/-- The members of an object and everything below them. -/
def memberDescendants : List (Key × Value) → List Value
  | [] => []
  | (_, item) :: rest => descendants item ++ memberDescendants rest
  termination_by structural members => members

end

/-- The items of a list and the values of an object's members. -/
def children : Value → List Value
  | .list items => items
  | .object members => members.map Prod.snd
  | _ => []

/-- The members with the given names. -/
def membersOf (names : List String) : Value → List Value
  | .object members => names.filterMap fun name => Fields.find? members name
  | _ => []

/-- The item of a list at a place; a negative place counts from the end. -/
def itemAt? (items : List Value) (place : Int) : Option Value :=
  if 0 ≤ place then items[place.toNat]?
  else if (items.length : Int) + place < 0 then none
  else items[((items.length : Int) + place).toNat]?

/-- The items at the given places. -/
def itemsAt (places : List Int) : Value → List Value
  | .list items => places.filterMap (itemAt? items)
  | _ => []

/-- A bound of a slice within a list of the given length: a negative bound counts from the end, and
every bound is moved between `low` and `high`. -/
def clampBound (length low high bound : Int) : Int :=
  let fromStart := if bound < 0 then bound + length else bound
  max low (min high fromStart)

/-- The places of a slice going up from `start` to before `stop`. -/
def placesUp (start stop step : Int) : Nat → List Int
  | 0 => []
  | count + 1 => if start < stop then start :: placesUp (start + step) stop step count else []

/-- The places of a slice going down from `start` to after `stop`. -/
def placesDown (start stop step : Int) : Nat → List Int
  | 0 => []
  | count + 1 => if stop < start then start :: placesDown (start + step) stop step count else []

/-- The places of a slice in a list of the given length. -/
def slicePlaces (length : Nat) (start stop step : Option Int) : List Int :=
  let n : Int := length
  let stride := step.getD 1
  if stride = 0 then []
  else if 0 < stride then
    placesUp ((start.map (clampBound n 0 n)).getD 0) ((stop.map (clampBound n 0 n)).getD n)
      stride length
  else
    placesDown ((start.map (clampBound n (-1) (n - 1))).getD (n - 1))
      ((stop.map (clampBound n (-1) (n - 1))).getD (-1)) stride length

/-- The items of a slice. -/
def sliceOf (start stop step : Option Int) : Value → List Value
  | .list items =>
    (slicePlaces items.length start stop step).filterMap fun place => items[place.toNat]?
  | _ => []

/-- How many items, members or characters a value has. -/
def sizeOf? : Value → Option Value
  | .list items => some (.int items.length)
  | .object members => some (.int members.length)
  | .text s => some (.int s.length)
  | _ => none

mutual

/-- The values that a step selects at a value of a document. -/
def stepValues (document : Value) : Step → Value → Outcome (List Value)
  | .root, _ => Except.ok [document]
  | .self, v => Except.ok [v]
  | .members names, v => Except.ok (membersOf names v)
  | .items places, v => Except.ok (itemsAt places v)
  | .slice start stop step, v => Except.ok (sliceOf start stop step v)
  | .wildcard, v => Except.ok (children v)
  | .descend, v => Except.ok (descendants v)
  | .size, v => Except.ok (sizeOf? v).toList
  | .union first second, v => do
    let found ← queryValues document first [v]
    let more ← queryValues document second [v]
    return found ++ more
  | .intersection _ _, _ => Outcome.defect .unsupported
  | .filter condition, v => (children v).filterM (conditionHolds document condition)
  termination_by structural step => step

/-- The values that a query selects from values of a document. -/
def queryValues (document : Value) : List Step → List Value → Outcome (List Value)
  | [], vs => Except.ok vs
  | step :: query, vs => do
    let found ← vs.mapM (stepValues document step)
    queryValues document query found.flatten
  termination_by structural query => query

/-- Whether a condition holds at a value of a document. What selects nothing is equal to what
selects nothing, and to nothing else. -/
def conditionHolds (document : Value) : Condition → Value → Outcome Bool
  | .selects query, v => do return !(← queryValues document query [v]).isEmpty
  | .lacks query, v => do return (← queryValues document query [v]).isEmpty
  | .compare query relation literal, v => do
    match ← queryValues document query [v] with
    | [] => return relation = .ne
    | found => return found.any fun a => relation.holds a literal
  | .compareWith query relation other, v => do
    match ← queryValues document query [v], ← queryValues document other [v] with
    | [], [] => return relation.holdsOfNothing
    | [], _ => return relation = .ne
    | _, [] => return relation = .ne
    | found, others => return found.any fun a => others.any fun b => relation.holds a b
  | .and first second, v => do
    if ← conditionHolds document first v then conditionHolds document second v else return false
  | .or first second, v => do
    if ← conditionHolds document first v then return true else conditionHolds document second v
  termination_by structural condition => condition

end

/-- The values that a query selects in a document. -/
def select (query : Query) (document : Value) : Outcome (List Value) :=
  queryValues document query [document]

/-- What a query gives: one value or null if it is definite, and otherwise the list of all selected
values. -/
def result (query : Query) (document : Value) : Outcome Value := do
  let found ← select query document
  return if query.isDefinite then found.headD .null else .list found

/-- What a path text gives in a document. -/
def read (document : Value) (path : String) : Outcome Value :=
  let text := Text.trim path.toList
  match read? text with
  | .error .tooLong => Outcome.defect .value
  | .ok (some query) => result query document
  | _ => Outcome.fail (.query (String.ofList text))

end Stencil.Path
