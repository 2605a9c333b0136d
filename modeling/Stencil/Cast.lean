import Stencil.Json.Printer

/-!
# Casting values

A value that becomes part of a text looks like this: texts stand as they are, numbers keep their
digits, and lists and objects are compact JSON.

A value that is not null is turned into a kind. Texts are read as numbers; numbers are rounded to
integers with a half going away from zero; every number is true unless it is zero, and a text is
true if it is the word. Nothing is lost on the way to a decimal number.
-/

namespace Stencil.Value

/-- The text of a value. -/
def toText : Value → Outcome String
  | .null => Except.ok "null"
  | .bool b => Except.ok (if b then "true" else "false")
  | .int n => (Json.intChars n).map String.ofList
  | .decimal d => Except.ok d.text
  | .binary x => Except.ok x.text
  | .text s => Except.ok s
  | .moment m => Except.ok (String.ofList m.chars)
  | .bytes bs => Except.ok (String.ofList (bytesLiteral bs))
  | v@(.set _) => if v.holdsLong then Outcome.defect .value else Except.ok v.literal
  | v@(.pair ..) => if v.holdsLong then Outcome.defect .value else Except.ok v.literal
  | .list items => Json.write .compact (.list items)
  | .object members => Json.write .compact (.object members)

end Stencil.Value

namespace Stencil

/-- The failure of a cast. A value that cannot be shown makes the report itself break down. -/
def castFailure {α : Type} (v : Value) (kind : Kind) : Outcome α :=
  if v.holdsLong then Outcome.defect .value else Outcome.fail (.cast v (.one kind))

/-- The decimal number that a binary one is written as. -/
def Decimal.ofBinary64? (x : Binary64) : Option Decimal := Decimal.read? x.chars

/-- The integer of a value. -/
def castInteger (v : Value) : Outcome Value :=
  let ofDecimal (d : Option Decimal) : Outcome Value :=
    match d.bind Decimal.nearestInt? with
    | some n => Except.ok (.int n)
    | none => castFailure v .integer
  match v with
  | .int n => Except.ok (.int n)
  | .text s =>
    match Number.readInteger? (Text.trim s.toList) with
    | some n => Except.ok (.int n)
    | none => castFailure v .integer
  | .decimal d => ofDecimal (some d)
  | .binary x => ofDecimal (Decimal.ofBinary64? x)
  | _ => castFailure v .integer

/-- The decimal number of a value. -/
def castNumber (v : Value) : Outcome Value :=
  let ofText (cs : List Char) : Outcome Value :=
    match Decimal.read? cs with
    | some d => Except.ok (.decimal d)
    | none => castFailure v .number
  match v with
  | .decimal d => Except.ok (.decimal d)
  | .text s => ofText (Text.trim s.toList)
  | .int n => if Number.isLong n then Outcome.defect .value else Except.ok (.decimal (.ofInt n))
  | .binary x => ofText x.chars
  | _ => castFailure v .number

/-- The truth value of a value. -/
def castBoolean (v : Value) : Outcome Value :=
  match v with
  | .bool b => Except.ok (.bool b)
  | .int n => Except.ok (.bool (n ≠ 0))
  | .decimal d => (Outcome.ofTrap d.nonzero).map .bool
  | .binary x => Except.ok (.bool x.nonzero)
  | .text s => Except.ok (.bool (Text.lower (Text.strip s) = "true"))
  | _ => castFailure v .boolean

/-- A value turned into a kind. -/
def cast (v : Value) : Kind → Outcome Value
  | .string => v.toText.map .text
  | .integer => castInteger v
  | .number => castNumber v
  | .boolean => castBoolean v
  | .object => Except.ok v

/-- A value asked for with a tag. No single value is a list. -/
def castTo (v : Value) : Tag → Outcome Value
  | .one kind => cast v kind
  | .many kind =>
    if v.holdsLong then Outcome.defect .value else Outcome.fail (.cast v (.many kind))

/-- An item of a list: null stays null. -/
def castItem (kind : Kind) : Value → Outcome Value
  | .null => Except.ok .null
  | v => cast v kind

/-- A value as a list of the kind: a single value makes a list of one. -/
def castList (v : Value) (kind : Kind) : Outcome Value :=
  let items := match v with
    | .list items => items
    | other => [other]
  (items.mapM (castItem kind)).map .list

end Stencil
