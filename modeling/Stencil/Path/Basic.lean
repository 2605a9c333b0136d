import Stencil.Value.Compare

/-!
# Path queries

A path query is a list of steps from the document to the values it selects. A step that can select
at most one value is single; a query of single steps is definite and gives one value or null, every
other query gives a list.
-/

namespace Stencil.Path

/-- How a filter compares two values. -/
inductive Relation where
  /-- Equal. -/
  | eq
  /-- Not equal. -/
  | ne
  /-- Before. -/
  | lt
  /-- Before or equal. -/
  | le
  /-- After. -/
  | gt
  /-- After or equal. -/
  | ge
  deriving DecidableEq, Repr

/-- Whether a relation holds between two values that are both missing: they count as equal. -/
def Relation.holdsOfNothing : Relation → Bool
  | .eq | .le | .ge => true
  | .ne | .lt | .gt => false

/-- Whether two values stand in a relation. -/
def Relation.holds (relation : Relation) (a b : Value) : Bool :=
  match relation with
  | .eq => a.same b
  | .ne => !a.same b
  | .lt => a.before b
  | .le => a.before b || a.same b
  | .gt => b.before a
  | .ge => b.before a || a.same b

mutual

/-- A step of a query. -/
inductive Step where
  /-- Back to the whole document. -/
  | root
  /-- The value itself. -/
  | self
  /-- The members with these names. -/
  | members (names : List String)
  /-- The items at these places; a negative place counts from the end. -/
  | items (places : List Int)
  /-- The items of a slice. -/
  | slice (start stop step : Option Int)
  /-- All members or items. -/
  | wildcard
  /-- The value and everything below it, each value before what is below it. -/
  | descend
  /-- How many items, members or characters the value has. -/
  | size
  /-- What two queries select, one after the other. -/
  | union (first second : List Step)
  /-- What two queries both select. It can be read but not run. -/
  | intersection (first second : List Step)
  /-- The members or items for which a condition holds. -/
  | filter (condition : Condition)

/-- A condition on a value. -/
inductive Condition where
  /-- A query selects something. -/
  | selects (query : List Step)
  /-- A query selects nothing. -/
  | lacks (query : List Step)
  /-- A value that a query selects is related to a fixed value. -/
  | compare (query : List Step) (relation : Relation) (literal : Value)
  /-- A value that a query selects is related to a value that another query selects. -/
  | compareWith (query : List Step) (relation : Relation) (other : List Step)
  /-- Two conditions hold. -/
  | and (first second : Condition)
  /-- One of two conditions holds. -/
  | or (first second : Condition)

end

/-- A query is a list of steps. -/
abbrev Query := List Step

/-- Whether a step can select at most one value. The name of a single asterisk does not count as
single. -/
def Step.isSingle : Step → Bool
  | .root => true
  | .self => true
  | .members [name] => name ≠ "*"
  | .items [_] => true
  | _ => false

/-- Whether a query can select at most one value. -/
def Query.isDefinite (query : Query) : Bool := query.all Step.isSingle

/-- A query is definite exactly when each of its steps is single. -/
theorem Query.isDefinite_cons (step : Step) (query : Query) :
    Query.isDefinite (step :: query) = (step.isSingle && Query.isDefinite query) := rfl

end Stencil.Path
