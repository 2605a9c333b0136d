import Stencil.Number.Digits

/-!
# Calendar dates and times

A settings or document file may hold a calendar date, or a date with a time of day and an offset
from universal time. Neither has a form in JSON; both have a text and a literal.
-/

namespace Stencil

/-- A calendar date. -/
structure Date where
  /-- The year. -/
  year : Nat
  /-- The month, counted from one. -/
  month : Nat
  /-- The day of the month, counted from one. -/
  day : Nat
  deriving DecidableEq, Repr, Inhabited

/-- A time of day. -/
structure TimeOfDay where
  /-- The hour. -/
  hour : Nat
  /-- The minute. -/
  minute : Nat
  /-- The second. -/
  second : Nat
  /-- The millionths of a second. -/
  micro : Nat
  deriving DecidableEq, Repr, Inhabited

/-- A date, or a date and time with an optional offset from universal time in seconds. -/
inductive Moment where
  /-- A whole day. -/
  | day (date : Date)
  /-- A point in time. -/
  | instant (date : Date) (time : TimeOfDay) (offset : Option Int)
  deriving DecidableEq, Repr, Inhabited

namespace Date

/-- Whether a year has a leap day. -/
def isLeap (year : Nat) : Bool := year % 4 = 0 && (year % 100 ≠ 0 || year % 400 = 0)

/-- How many days a month has. -/
def monthLength (year month : Nat) : Nat :=
  if month = 2 then (if isLeap year then 29 else 28)
  else if month = 4 || month = 6 || month = 9 || month = 11 then 30 else 31

/-- Whether the date exists. -/
def isValid (d : Date) : Bool :=
  decide (1 ≤ d.year ∧ d.year ≤ 9999 ∧ 1 ≤ d.month ∧ d.month ≤ 12 ∧ 1 ≤ d.day ∧
    d.day ≤ monthLength d.year d.month)

/-- Year, month and day joined by hyphens. -/
def chars (d : Date) : List Char :=
  Number.padded 4 d.year ++ '-' :: Number.padded 2 d.month ++ '-' :: Number.padded 2 d.day

end Date

/-- Whether the time of day exists. -/
def TimeOfDay.isValid (t : TimeOfDay) : Bool :=
  decide (t.hour < 24 ∧ t.minute < 60 ∧ t.second < 60 ∧ t.micro < 1000000)

/-- Hour, minute, second, and the millionths if there are any. -/
def TimeOfDay.chars (t : TimeOfDay) : List Char :=
  Number.padded 2 t.hour ++ ':' :: Number.padded 2 t.minute ++ ':' :: Number.padded 2 t.second ++
    (if t.micro = 0 then [] else '.' :: Number.padded 6 t.micro)

namespace Moment

/-- The longest offset from universal time, which must stay below a day. -/
def offsetLimit : Nat := 86400

/-- An offset as sign, hours and minutes, and seconds if there are any. -/
def offsetChars (offset : Int) : List Char :=
  let n := offset.natAbs
  (if offset < 0 then '-' else '+') :: Number.padded 2 (n / 3600) ++
    ':' :: Number.padded 2 (n % 3600 / 60) ++
    (if n % 60 = 0 then [] else ':' :: Number.padded 2 (n % 60))

/-- The text of a moment. -/
def chars : Moment → List Char
  | .day date => date.chars
  | .instant date time offset =>
    date.chars ++ ' ' :: time.chars ++ (offset.map offsetChars).getD []

/-- Numbers separated by commas. -/
def commaSeparated (ns : List Nat) : List Char :=
  List.intercalate [',', ' '] (ns.map Number.digits)

/-- The numbers that a literal lists: seconds and millionths only as far as they are needed. -/
def timeFields (t : TimeOfDay) : List Nat :=
  [t.hour, t.minute] ++
    (if t.micro ≠ 0 then [t.second, t.micro] else if t.second ≠ 0 then [t.second] else [])

/-- The span of time that an offset stands for, as whole days and a rest in seconds. -/
def spanLiteral (offset : Int) : List Char :=
  let days := offset / 86400
  let seconds := offset % 86400
  let fields := (if days = 0 then [] else ["days=".toList ++ Number.intText days]) ++
    (if seconds = 0 then [] else ["seconds=".toList ++ Number.intText seconds])
  let inside := if fields.isEmpty then ['0'] else List.intercalate [',', ' '] fields
  "datetime.timedelta(".toList ++ inside ++ [')']

/-- The zone of an offset. -/
def zoneLiteral (offset : Int) : List Char :=
  if offset = 0 then "datetime.timezone.utc".toList
  else "datetime.timezone(".toList ++ spanLiteral offset ++ [')']

/-- The literal of a moment in messages. -/
def literal : Moment → List Char
  | .day d => "datetime.date(".toList ++ commaSeparated [d.year, d.month, d.day] ++ [')']
  | .instant d t offset =>
    "datetime.datetime(".toList ++ commaSeparated ([d.year, d.month, d.day] ++ timeFields t) ++
      (match offset with
        | none => []
        | some offset => ", tzinfo=".toList ++ zoneLiteral offset) ++ [')']

end Moment

end Stencil
