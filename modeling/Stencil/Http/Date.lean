import Stencil.Number.Written
import Stencil.Value.Moment

/-!
# Dates in header lines

A date is written with the day, the month's name and the year, and perhaps with a day of the week, a
time and a zone. Several spellings are in use. Dates are read as seconds since the start of 1970. A
year of two digits is one close to the year in which it is read.
-/

namespace Stencil.Http

/-- The present: the start of 2026 unless a clock tells otherwise. -/
structure Present where
  /-- The seconds since the start of 1970. -/
  seconds : Int := 1767225600
  /-- The year on the calendar. -/
  year : Nat := 2026
  deriving DecidableEq, Repr

/-- What lies outside tells the present. -/
abbrev Clock (σ : Type) := σ → Present

/-- What a text tells about a point in time. -/
inductive DateReading where
  /-- A point in time, in seconds. -/
  | time (seconds : Int)
  /-- The text is no date. -/
  | unknown
  /-- The text looks like a date, but cannot be read. -/
  | broken
  deriving DecidableEq, Repr

namespace DateReading

/-- The days from the first day of year 1 to the first day of a year. -/
def daysBefore (year : Nat) : Nat :=
  let past := year - 1
  365 * past + past / 4 - past / 100 + past / 400

/-- The seconds of a date and a time of day, which may be past the end of its month or day. -/
def seconds (year month day hour minute second : Nat) : Int :=
  let lengths := (List.range (month - 1)).map fun m => Date.monthLength year (m + 1)
  let months := lengths.foldl (· + ·) 0
  let days : Int := (daysBefore year + months + day : Nat) - (daysBefore 1970 + 1 : Nat)
  ((days * 24 + hour) * 60 + minute) * 60 + second

/-- A point in time from 1970 on. -/
def ofParts (year month day hour minute second : Nat) : DateReading :=
  if 1970 ≤ year && decide (1 ≤ day ∧ day ≤ 31 ∧ hour ≤ 24 ∧ minute ≤ 59 ∧ second ≤ 61) then
    time (seconds year month day hour minute second)
  else unknown

/-- The names of the months. -/
def months : List String :=
  ["jan", "feb", "mar", "apr", "may", "jun", "jul", "aug", "sep", "oct", "nov", "dec"]

/-- The number of a month with a name. -/
def monthNamed? (name : List Char) : Option Nat :=
  (months.findIdx? fun month => month.toList = name.map Char.toLower).map (· + 1)

/-- The number of a month that is written as a name or as a number. -/
def month? (text : List Char) : Option Nat :=
  match monthNamed? text with
  | some month => some month
  | none =>
    match Number.readInteger? text with
    | some n => if 1 ≤ n && n ≤ 12 then some n.toNat else none
    | none => none

/-- The number of decimal digits. -/
def number (cs : List Char) : Nat := Number.ofDigitValues (cs.map fun c => c.toNat - 48)

/-- The usual form of a date: `D` stands for the first letter of a day, `N` for that of a month, `x`
for a small letter and `0` for a digit. -/
def usualForm : List Char := "Dxx, 00 Nxx 0000 00:00:00 GMT".toList

/-- Whether a character may stand for one of the usual form. -/
def fits (form c : Char) : Bool :=
  if form = 'D' then "SMTWF".toList.contains c
  else if form = 'N' then "JFMASOND".toList.contains c
  else if form = 'x' then c.isLower
  else if form = '0' then c.isDigit
  else c = form

/-- Whether a text has the usual form. A line end may follow. -/
def isUsual (cs : List Char) : Bool :=
  (cs.length = usualForm.length || (cs.length = usualForm.length + 1 && cs.getLast? = some '\n')) &&
    (usualForm.zip cs).all fun (form, c) => fits form c

/-- The characters from one position up to another. -/
def slice (first last : Nat) (cs : List Char) : List Char := (cs.drop first).take (last - first)

/-- A date in the usual form. -/
def readUsual (cs : List Char) : DateReading :=
  match monthNamed? (slice 8 11 cs) with
  | none => broken
  | some month =>
    ofParts (number (slice 12 16 cs)) month (number (slice 5 7 cs)) (number (slice 17 19 cs))
      (number (slice 20 22 cs)) (number (slice 23 25 cs))

/-- The text without a day of the week before it. -/
def withoutWeekday (cs : List Char) : List Char :=
  let start := (cs.take 3).map Char.toLower
  if ["sun", "mon", "tue", "wed", "thu", "fri", "sat"].contains (String.ofList start) then
    let rest := cs.dropWhile Char.isAlpha
    (if rest.head? = some ',' then rest.tail else rest).dropWhile Text.isPlainBlank
  else cs

/-- Up to `most` digits at the start of a text, and the rest. -/
def takeDigits (most : Nat) (cs : List Char) : List Char × List Char :=
  let found := (cs.take most).takeWhile Char.isDigit
  (found, cs.drop found.length)

/-- The rest after blanks or one of some marks. -/
def afterMark? (marks : List Char) (cs : List Char) : Option (List Char) :=
  match cs with
  | [] => none
  | c :: rest =>
    if Text.isPlainBlank c then some (rest.dropWhile Text.isPlainBlank)
    else if marks.contains c then some rest
    else none

/-- The hour, the minute and the second at the start of a text, and the rest. -/
def clock? (cs : List Char) : Option ((Nat × Nat × Nat) × List Char) := do
  let (hour, rest) := takeDigits 2 (← afterMark? [':'] cs)
  if hour.isEmpty || rest.head? ≠ some ':' then none
  let (minute, rest) := takeDigits 2 rest.tail
  if minute.length ≠ 2 then none
  let (second, after) := takeDigits 2 rest.tail
  if rest.head? = some ':' && second.length = 2 then
    some ((number hour, number minute, number second), after)
  else some ((number hour, number minute, 0), rest)

/-- A character of a word. -/
def isWordChar (c : Char) : Bool := c.isAlphanum || c = '_'

/-- Whether a text starts with a half of the day. -/
def startsHalf (cs : List Char) : Bool :=
  ["am", "pm"].contains (String.ofList ((cs.take 2).map Char.toLower)) &&
    !(cs.drop 2).head?.any isWordChar

/-- The zone at the start of a text, empty if there is none, and the rest. -/
def zone (cs : List Char) : List Char × List Char :=
  let signed := cs.head? = some '+' || cs.head? = some '-'
  let (digits, rest) := takeDigits 4 (if signed then cs.tail else cs)
  if 2 ≤ digits.length then (cs.take (cs.length - rest.length), rest)
  else if startsHalf cs then ([], cs)
  else (cs.takeWhile Char.isAlpha, cs.dropWhile Char.isAlpha)

/-- Whether only blanks and a remark of one word in brackets are left. -/
def isRemark (cs : List Char) : Bool :=
  match cs with
  | '(' :: rest =>
    let word := rest.takeWhile isWordChar
    let after := rest.drop word.length
    !word.isEmpty && after.head? = some ')' && after.tail.all Text.isPlainBlank
  | _ => cs.isEmpty

/-- The seconds by which a zone is ahead, in capital letters or digits. -/
def zoneOffset? (zone : List Char) : Option Int :=
  if zone.isEmpty || ["GMT", "UTC", "UT", "Z"].contains (String.ofList zone) then some 0
  else
    let digits := zone.filter Char.isDigit
    if digits.isEmpty then none
    else
      let hours := if digits.length = 3 then digits.take 1 else digits.take 2
      let offset : Int := number hours * 3600 + number (digits.drop hours.length) * 60
      some (if zone.head? = some '-' then -offset else offset)

/-- The full year that a short one stands for: the one closest to the current year. -/
def fullYear (current year : Nat) : Nat :=
  if 1000 ≤ year then year
  else
    let century := current - current % 100
    let near := year + century
    if year + 50 < current % 100 then near + 100
    else if current % 100 + 50 < year then near - 100
    else near

/-- The parts of a date that is written loosely. -/
structure Loose where
  /-- The day. -/
  day : List Char
  /-- The name or the number of the month. -/
  month : List Char
  /-- The year. -/
  year : List Char
  /-- The hour, the minute and the second. -/
  clock : Nat × Nat × Nat
  /-- The zone, empty if there is none. -/
  zone : List Char

/-- The parts of a date that is written loosely. -/
def loose? (cs : List Char) : Option Loose := do
  let (day, rest) := takeDigits 2 cs
  if day.isEmpty then none
  let rest ← afterMark? ['-', '/'] rest
  let month := rest.takeWhile isWordChar
  if month.isEmpty then none
  let rest ← afterMark? ['-', '/'] (rest.drop month.length)
  let year := rest.takeWhile Char.isDigit
  if year.isEmpty then none
  let rest := rest.drop year.length
  let (clock, rest) := (clock? rest).getD ((0, 0, 0), rest)
  let (zone, rest) := zone (rest.dropWhile Text.isPlainBlank)
  if isRemark (rest.dropWhile Text.isPlainBlank) then some { day, month, year, clock, zone }
  else none

/-- A date that is written loosely, in the current year. -/
def readLoose (current : Nat) (date : Loose) : DateReading :=
  if Number.digitLimit < date.year.length then broken
  else if 9999 < number date.year then unknown
  else
    match month? date.month with
    | none => unknown
    | some month =>
      let (hour, minute, second) := date.clock
      let year := fullYear current (number date.year)
      match ofParts year month (number date.day) hour minute second,
        zoneOffset? (date.zone.map Char.toUpper) with
      | time seconds, some offset => time (seconds - offset)
      | _, _ => unknown

/-- What a text tells about a point in time, in the current year. -/
def read (current : Nat) (cs : List Char) : DateReading :=
  if isUsual cs then readUsual cs
  else
    match loose? (withoutWeekday (Text.trimStart cs)) with
    | none => unknown
    | some date => readLoose current date

end DateReading

end Stencil.Http
