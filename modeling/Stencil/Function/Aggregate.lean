import Stencil.Function.Basic

/-!
# Aggregating functions

Sum, average, least and greatest item, count and concatenation. Lists among the arguments are
opened one level, and null items do not count. Numbers are cast to the requested type before they
are combined; without a request, integers stay integers and everything else becomes decimal.
-/

namespace Stencil

namespace Function

/-- The items that one argument contributes. -/
def itemsOf : Value → List Value
  | .null => []
  | .list items => items.filter fun item => !item.isNull
  | v => [v]

/-- The items of all arguments. -/
def flatten (arguments : List Value) : List Value := arguments.flatMap itemsOf

/-- Whether a value is an integer. -/
def isInteger : Value → Bool
  | .int _ => true
  | _ => false

/-- The type that items are cast to: the requested one, or integer if all are integers, or else
number. -/
def numericTag (items : List Value) (tag : Option Tag) : Tag :=
  tag.getD (.one (if items.all isInteger then .integer else .number))

/-- The items cast to a type. -/
def castItems (items : List Value) (tag : Tag) : Outcome (List Value) :=
  items.mapM fun item => castTo item tag

/-- The sum of two numbers. -/
def addValues : Value → Value → Outcome Value
  | .int m, .int n => Except.ok (.int (m + n))
  | .decimal a, .decimal b => (Outcome.ofTrap (a.add b)).map .decimal
  | .int m, .decimal b => (Outcome.ofTrap ((Decimal.ofInt m).add b)).map .decimal
  | .decimal a, .int n => (Outcome.ofTrap (a.add (.ofInt n))).map .decimal
  | _, _ => Outcome.defect .type

/-- The sum of items, from a start on. -/
def total (start : Value) (items : List Value) : Outcome Value := items.foldlM addValues start

/-- The sum of no items is the start. -/
theorem total_nil (start : Value) : total start [] = Except.ok start := rfl

/-- Whether one number is below another. -/
def lessValue : Value → Value → Outcome Bool
  | .int m, .int n => Except.ok (decide (m < n))
  | .decimal a, .decimal b => Outcome.ofTrap (a.less b)
  | .int m, .decimal b => Outcome.ofTrap ((Decimal.ofInt m).less b)
  | .decimal a, .int n => Outcome.ofTrap (a.less (.ofInt n))
  | _, _ => Outcome.defect .type

/-- The first item that no other item is better than; null if there are no items. -/
def pick (better : Value → Value → Outcome Bool) : List Value → Outcome Value
  | [] => Except.ok .null
  | first :: rest =>
    rest.foldlM (fun best item => return if ← better item best then item else best) first

/-- The best of a single item is that item. -/
theorem pick_singleton (better : Value → Value → Outcome Bool) (item : Value) :
    pick better [item] = Except.ok item := rfl

/-- The sum of all items. -/
def applySum (tag : Option Tag) (arguments : List Value) : Outcome Value := do
  let items := flatten arguments
  let target := numericTag items tag
  let start := if target = .one .integer then Value.int 0 else .decimal .zero
  total start (← castItems items target)

/-- The mean of all items as a decimal number, null if there are none. -/
def applyAverage (_ : Option Tag) (arguments : List Value) : Outcome Value := do
  let items ← castItems (flatten arguments) (.one .number)
  if items.isEmpty then return .null
  match ← total (.decimal .zero) items with
  | .decimal sum => (Outcome.ofTrap (sum.divNat items.length)).map .decimal
  | _ => Outcome.defect .type

/-- The least item, null if there are none. -/
def applyMin (tag : Option Tag) (arguments : List Value) : Outcome Value := do
  let items := flatten arguments
  pick lessValue (← castItems items (numericTag items tag))

/-- The greatest item, null if there are none. -/
def applyMax (tag : Option Tag) (arguments : List Value) : Outcome Value := do
  let items := flatten arguments
  pick (fun item best => lessValue best item) (← castItems items (numericTag items tag))

/-- The number of items. -/
def applyCount (_ : Option Tag) (arguments : List Value) : Outcome Value :=
  Except.ok (.int (flatten arguments).length)

/-- The texts of all items, one after the other. -/
def applyConcat (_ : Option Tag) (arguments : List Value) : Outcome Value := do
  let parts ← (flatten arguments).mapM Value.toText
  return .text (String.join parts)

/-- Adds numbers. -/
def sum : Function := { name := "sum", types := [.one .integer, .one .number], apply := applySum }

/-- Finds the least number. -/
def min : Function := { name := "min", types := [.one .integer, .one .number], apply := applyMin }

/-- Finds the greatest number. -/
def max : Function := { name := "max", types := [.one .integer, .one .number], apply := applyMax }

/-- Finds the mean of numbers. -/
def average : Function := { name := "average", types := [.one .number], apply := applyAverage }

/-- Counts items. -/
def count : Function := { name := "count", types := [.one .integer], apply := applyCount }

/-- Joins texts. -/
def concat : Function := { name := "concat", types := [.one .string], apply := applyConcat }

end Function

end Stencil
