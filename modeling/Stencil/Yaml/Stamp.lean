import Stencil.Value.Moment
import Stencil.Yaml.Cursor

/-!
# Dates and times in a YAML text

A date is a year of four digits, a month and a day. A time of day may follow, and after it an offset
from universal time; `Z` is universal time itself.
-/

namespace Stencil.Yaml

/-- A written date, with a time if one follows. -/
structure Stamp where
  /-- The year. -/
  year : Nat
  /-- The digits of the month. -/
  month : List Char
  /-- The digits of the day. -/
  day : List Char
  /-- The time of day and the offset in seconds. -/
  clock : Option (TimeOfDay × Option Int)

namespace Stamp

/-- The number that digits spell. -/
def number (ds : List Char) : Nat := Number.ofDigitValues (ds.map fun c => c.toNat - 48)

/-- The digits at the start of a text, if their number lies between two bounds. -/
def field? (least most : Nat) (cs : List Char) : Option (List Char × List Char) :=
  let ds := cs.takeWhile Char.isDigit
  if least ≤ ds.length && ds.length ≤ most then some (ds, cs.drop ds.length) else none

/-- What follows a character. -/
def after? (c : Char) : List Char → Option (List Char)
  | [] => none
  | first :: rest => if first = c then some rest else none

/-- The millionths of a second that digits after the point stand for; further digits are dropped. -/
def micros (ds : List Char) : Nat :=
  number ((ds.take 6).append (List.replicate (6 - ds.length) '0'))

/-- The digits after a point, if there is one. -/
def fraction (cs : List Char) : List Char × List Char :=
  match cs with
  | '.' :: rest => (rest.takeWhile Char.isDigit, rest.dropWhile Char.isDigit)
  | _ => ([], cs)

/-- The offset that ends a text. -/
def zone? (cs : List Char) : Option (Option Int) :=
  let signed (negative : Bool) (cs : List Char) : Option (Option Int) := do
    let (hours, rest) ← field? 1 2 cs
    let minutes ← match rest with
      | [] => some []
      | _ => do
        let (minutes, rest) ← field? 2 2 (← after? ':' rest)
        if rest.isEmpty then some minutes else none
    let seconds : Int := number hours * 3600 + number minutes * 60
    return some (if negative then -seconds else seconds)
  match cs.dropWhile fun c => c = ' ' || c = '\t' with
  | [] => if cs.isEmpty then some none else none
  | ['Z'] => some (some 0)
  | '-' :: rest => signed true rest
  | '+' :: rest => signed false rest
  | _ => none

/-- The time of day and the offset that end a text. -/
def clock? (cs : List Char) : Option (TimeOfDay × Option Int) := do
  let start ← match cs with
    | 'T' :: rest => some rest
    | 't' :: rest => some rest
    | _ =>
      let rest := cs.dropWhile fun c => c = ' ' || c = '\t'
      if rest.length < cs.length then some rest else none
  let (hour, rest) ← field? 1 2 start
  let (minute, rest) ← field? 2 2 (← after? ':' rest)
  let (second, rest) ← field? 2 2 (← after? ':' rest)
  let (digits, rest) := fraction rest
  let offset ← zone? rest
  return (⟨number hour, number minute, number second, micros digits⟩, offset)

/-- The date and time that a text spells. -/
def read? (cs : List Char) : Option Stamp := do
  let (year, rest) ← field? 4 4 cs
  let (month, rest) ← field? 1 2 (← after? '-' rest)
  let (day, rest) ← field? 1 2 (← after? '-' rest)
  if rest.isEmpty then return ⟨number year, month, day, none⟩
  else return ⟨number year, month, day, some (← clock? rest)⟩

/-- Whether a plain scalar of this form is a date: without a time, month and day need two digits. -/
def isPlain (s : Stamp) : Bool := s.clock.isSome || (s.month.length = 2 && s.day.length = 2)

/-- The moment of a written date, if it exists. -/
def moment (s : Stamp) : Except Fault Moment :=
  let date : Date := ⟨s.year, number s.month, number s.day⟩
  match s.clock with
  | none => if date.isValid then .ok (.day date) else .error (.defect .value)
  | some (time, offset) =>
    let near := match offset with
      | none => true
      | some seconds => decide (seconds.natAbs < Moment.offsetLimit)
    if date.isValid && time.isValid && near then .ok (.instant date time offset)
    else .error (.defect .value)

end Stamp

end Stencil.Yaml
