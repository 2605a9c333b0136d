import Stencil.Binary64.Text
import Stencil.Number.Written
import Stencil.Text.Sextet
import Stencil.Value.Basic
import Stencil.Yaml.Node
import Stencil.Yaml.Stamp

/-!
# Values of a YAML text

A plain scalar stands for the value whose form it has: a truth value, a number, null, or a date; any
other one is a text. A tag can ask for a kind by name; a mapping can stand for such a scalar, which it
has under the key `=`. A key `<<` takes in the entries of the mappings it names, which give way to the
entries written beside it. Tags also ask for the keys of a mapping as a set, and for the entries of a
list of mappings as pairs.
-/

namespace Stencil.Yaml

/-- What a scalar is, by its form or by its tag. -/
inductive ScalarKind where
  /-- A truth value. -/
  | bool
  /-- A number with a fraction. -/
  | float
  /-- An integer. -/
  | int
  /-- The key that takes in other mappings. -/
  | merge
  /-- Null. -/
  | null
  /-- A date. -/
  | stamp
  /-- The key of a mapping's own value. -/
  | own
  /-- A text. -/
  | text
  /-- Bytes in base sixty-four. -/
  | bytes
  deriving DecidableEq, Repr

namespace ScalarKind

/-- The words that mean true, in lower case. -/
def trueWords : List String := ["yes", "true", "on"]

/-- The words that mean false, in lower case. -/
def falseWords : List String := ["no", "false", "off"]

/-- A word with its first letter in upper case. -/
def capital : List Char → List Char
  | [] => []
  | c :: rest => c.toUpper :: rest

/-- Whether a text is a word in lower case, in upper case, or with a capital. -/
def isSpelling (word : String) (cs : List Char) : Bool :=
  cs = word.toList || cs = capital word.toList || cs = word.toList.map Char.toUpper

/-- A digit or an underscore. -/
def isGrouped (c : Char) : Bool := c.isDigit || c = '_'

/-- A text without its sign. -/
def unsigned : List Char → List Char
  | '-' :: rest => rest
  | '+' :: rest => rest
  | cs => cs

/-- An exponent with its sign, or nothing. -/
def isExponent : List Char → Bool
  | [] => true
  | e :: sign :: rest =>
    (e = 'e' || e = 'E') && (sign = '-' || sign = '+') && !rest.isEmpty && rest.all Char.isDigit
  | _ => false

/-- A colon-separated part of a number of base sixty. -/
def isSixtieth (cs : List Char) : Bool :=
  match cs with
  | [d] => d.isDigit
  | [t, d] => '0' ≤ t && t ≤ '5' && d.isDigit
  | _ => false

/-- The parts of a text between colons. -/
def colonParts (cs : List Char) : List (List Char) :=
  cs.splitOn ':'

/-- Whether a text is a leading number followed by further parts of base sixty. -/
def isSixties (leading : List Char → Bool) (cs : List Char) : Bool :=
  match colonParts cs with
  | first :: second :: rest => leading first && (second :: rest).all isSixtieth
  | _ => false

/-- Digits in which underscores may stand. -/
def isDigits (cs : List Char) : Bool :=
  match cs with
  | [] => false
  | d :: rest => d.isDigit && rest.all isGrouped

/-- Digits in which underscores may stand, the first of which is not zero. -/
def isCounting (cs : List Char) : Bool := isDigits cs && cs.head? ≠ some '0'

/-- Whether a text is a number with a fraction. -/
def isFloat (cs : List Char) : Bool :=
  let body := unsigned cs
  let whole := body.takeWhile fun c => isGrouped c || c = ':'
  let withPoint := match body.drop whole.length with
    | '.' :: rest =>
      let rest := rest.dropWhile isGrouped
      (isDigits whole && isExponent rest) || (isSixties isDigits whole && rest.isEmpty)
    | _ => false
  let pointFirst := match cs with
    | '.' :: d :: rest => d.isDigit && isExponent (rest.dropWhile isGrouped)
    | _ => false
  let special := match body with
    | '.' :: rest => isSpelling "inf" rest
    | _ => false
  let undefined := cs = ".nan".toList || cs = ".NaN".toList || cs = ".NAN".toList
  withPoint || pointFirst || special || undefined

/-- A digit of base sixteen. -/
def isHexDigit (c : Char) : Bool := (Json.hexValue? c).isSome

/-- Whether a text is not empty and has only characters of a class and underscores. -/
def allOrGap (p : Char → Bool) (cs : List Char) : Bool :=
  !cs.isEmpty && cs.all fun c => p c || c = '_'

/-- Whether a text is an integer. -/
def isInt (cs : List Char) : Bool :=
  let body := unsigned cs
  let based := match body with
    | ['0'] => true
    | '0' :: 'b' :: rest => allOrGap (fun c => c = '0' || c = '1') rest
    | '0' :: 'x' :: rest => allOrGap isHexDigit rest
    | '0' :: rest => allOrGap (fun c => '0' ≤ c && c ≤ '7') rest
    | _ => false
  based || isCounting body || isSixties isCounting body

/-- Whether a text is null. -/
def isNull (cs : List Char) : Bool := cs = [] || cs = ['~'] || isSpelling "null" cs

/-- What a plain scalar is. -/
def ofPlain (cs : List Char) : ScalarKind :=
  if (trueWords ++ falseWords).any fun word => isSpelling word cs then .bool
  else if isFloat cs then .float
  else if isInt cs then .int
  else if cs = ['<', '<'] then .merge
  else if isNull cs then .null
  else if (Stamp.read? cs).any Stamp.isPlain then .stamp
  else if cs = ['='] then .own
  else .text

/-- The kinds that have a tag. -/
def tags : List (String × ScalarKind) :=
  [("tag:yaml.org,2002:bool", .bool), ("tag:yaml.org,2002:float", .float),
    ("tag:yaml.org,2002:int", .int), ("tag:yaml.org,2002:merge", .merge),
    ("tag:yaml.org,2002:null", .null), ("tag:yaml.org,2002:timestamp", .stamp),
    ("tag:yaml.org,2002:value", .own), ("tag:yaml.org,2002:str", .text),
    ("tag:yaml.org,2002:binary", .bytes)]

/-- What a scalar is. No kind has an unknown tag. -/
def ofForm? (form : ScalarForm) (text : String) : Option ScalarKind :=
  match form with
  | .plain => some (ofPlain text.toList)
  | .quoted => some .text
  | .tagged name => tags.lookup name

end ScalarKind

/-- Breaking down while a scalar is converted. -/
def broken {α : Type} (d : Defect) : Except Fault α := .error (.defect d)

/-- A truth value. -/
def boolValue (cs : List Char) : Except Fault Bool :=
  let word := String.ofList (cs.map Char.toLower)
  if ScalarKind.trueWords.contains word then .ok true
  else if ScalarKind.falseWords.contains word then .ok false
  else broken .key

/-- Digits of a base as a number. -/
def inBase (base : Nat) (cs : List Char) : Except Fault Int :=
  let digit (c : Char) : Option Nat := (Json.hexValue? c).filter fun d => decide (d < base)
  match cs.mapM digit with
  | some (d :: ds) => .ok ((d :: ds).foldl (fun n d => n * base + d) 0 : Nat)
  | _ => broken .value

/-- A decimal integer. -/
def decimalInt (cs : List Char) : Except Fault Int :=
  match Number.readInteger? cs with
  | some n => .ok n
  | none => broken .value

/-- The integer of a text without underscores and sign. -/
def unsignedInt (cs : List Char) : Except Fault Int :=
  match cs with
  | [] => broken .index
  | ['0'] => .ok 0
  | '0' :: 'b' :: rest => inBase 2 rest
  | '0' :: 'x' :: rest => inBase 16 rest
  | '0' :: _ => inBase 8 cs
  | _ =>
    match ScalarKind.colonParts cs with
    | first :: second :: rest =>
      (first :: second :: rest).foldlM (fun n part => (decimalInt part).map fun d => n * 60 + d) 0
    | _ => decimalInt cs

/-- An integer. -/
def intValue (cs : List Char) : Except Fault Int :=
  match cs.filter (· ≠ '_') with
  | [] => broken .index
  | '-' :: rest => (unsignedInt rest).map (- ·)
  | '+' :: rest => unsignedInt rest
  | rest => unsignedInt rest

/-- A number with a fraction. -/
def binaryPart (cs : List Char) : Except Fault Binary64 :=
  match Binary64.read? cs with
  | some x => .ok x
  | none => broken .value

/-- The sum of parts of base sixty, the last part first. -/
def sumSixties : Nat → Binary64 → List Binary64 → Binary64
  | _, total, [] => total
  | weight, total, part :: rest => sumSixties (weight * 60) (total.add (part.mulNat weight)) rest

/-- The number of a text without underscores and sign. -/
def unsignedFloat (cs : List Char) : Except Fault Binary64 :=
  if cs = ".inf".toList then .ok (.infinite false)
  else if cs = ".nan".toList then .ok .undefined
  else
    match ScalarKind.colonParts cs with
    | first :: second :: rest => do
      let parts ← (first :: second :: rest).mapM binaryPart
      return sumSixties 1 (.zero false) parts.reverse
    | _ => binaryPart cs

/-- A number with a fraction. -/
def floatValue (cs : List Char) : Except Fault Binary64 :=
  match (cs.filter (· ≠ '_')).map Char.toLower with
  | [] => broken .index
  | '-' :: rest => (unsignedFloat rest).map Binary64.neg
  | '+' :: rest => unsignedFloat rest
  | rest => unsignedFloat rest

/-- A date. -/
def stampValue (cs : List Char) : Except Fault Moment :=
  match Stamp.read? cs with
  | some stamp => stamp.moment
  | none => broken .attribute

/-- Bytes. -/
def bytesValue (cs : List Char) : Except Fault (List UInt8) :=
  if cs.all fun c => c.toNat < 128 then
    match Text.ofSextets? cs with
    | some bs => .ok bs
    | none => malformed
  else malformed

/-- The value of a scalar. -/
def scalarValue (form : ScalarForm) (text : String) : Except Fault Value :=
  let cs := text.toList
  match ScalarKind.ofForm? form text with
  | some .bytes => (bytesValue cs).map .bytes
  | some .bool => (boolValue cs).map .bool
  | some .float => (floatValue cs).map .binary
  | some .int => (intValue cs).map .int
  | some .null => .ok .null
  | some .stamp => (stampValue cs).map .moment
  | some .text => .ok (.text text)
  | some .merge => malformed
  | some .own => malformed
  | none => malformed

/-- The key that a scalar stands for. -/
def keyOf : Value → Except Fault Key
  | .null => .ok .null
  | .bool b => .ok (.bool b)
  | .int n => .ok (.int n)
  | .binary x => .ok (.binary x)
  | .text s => .ok (.text s)
  | .moment m => .ok (.moment m)
  | .bytes bs => .ok (.bytes bs)
  | _ => malformed

namespace Node

/-- What a node is, if it is a scalar. -/
def kind? : Node → Option ScalarKind
  | .scalar form text => ScalarKind.ofForm? form text
  | _ => none

/-- Whether a key takes in other mappings. -/
def isMerge (key : Node) : Bool := key.kind? = some .merge

/-- The key of an entry. Collections are no keys. -/
def key : Node → Except Fault Key
  | .scalar form text =>
    match ScalarKind.ofForm? form text with
    | some .own => .ok (.text text)
    | _ => (scalarValue form text).bind keyOf
  | _ => malformed

/-- Whether a collection may have a tag. -/
def admits (name : String) : Option String → Bool
  | none => true
  | some tag => tag = "tag:yaml.org,2002:" ++ name

mutual

/-- The text that a node has as a scalar: a mapping has that of its own value. -/
def ownText? : Node → Option String
  | .scalar _ text => some text
  | .map _ entries => ownAmong? entries
  | _ => none

/-- The text of the own value among entries. -/
def ownAmong? : List (Node × Node) → Option String
  | [] => none
  | (k, v) :: rest => if k.kind? = some .own then ownText? v else ownAmong? rest

end

mutual

/-- The value of a node. -/
def value : Node → Except Fault Value
  | .scalar form text => scalarValue form text
  | .list tag items =>
    if admits "seq" tag then (values items).map .list
    else if admits "omap" tag || admits "pairs" tag then (pairs items).map .list
    else malformed
  | .map tag entries =>
    if admits "map" tag then (members entries).map fun (taken, own) =>
      .object (Fields.ofList (taken ++ own))
    else if admits "set" tag then (members entries).map fun (taken, own) =>
      .set ((Fields.ofList (taken ++ own)).map Prod.fst)
    else
      match tag, ownAmong? entries with
      | some name, some text => scalarValue (.tagged name) text
      | _, _ => malformed
  | .endless => broken .endless

/-- The values of the items of a list. -/
def values : List Node → Except Fault (List Value)
  | [] => .ok []
  | item :: rest => do return (← value item) :: (← values rest)

/-- The pairs of mappings with a single entry. -/
def pairs : List Node → Except Fault (List Value)
  | [] => .ok []
  | .map _ [(k, v)] :: rest => do return .pair (← value k) (← value v) :: (← pairs rest)
  | _ :: _ => malformed

/-- The entries that a mapping takes in, and its own ones. -/
def members : List (Node × Node) → Except Fault (List (Key × Value) × List (Key × Value))
  | [] => .ok ([], [])
  | (k, v) :: rest => do
    if k.isMerge then
      let found ← taken v
      let (more, own) ← members rest
      return (found ++ more, own)
    else
      let key ← k.key
      let found ← value v
      let (taken, own) ← members rest
      return (taken, (key, found) :: own)

/-- The entries of a mapping, or of a list of mappings, of which the first one wins. -/
def taken : Node → Except Fault (List (Key × Value))
  | .scalar .. => malformed
  | .map _ entries => (members entries).map fun (taken, own) => taken ++ own
  | .list _ items => takenAll items
  | .endless => broken .endless

/-- The entries of a list of mappings, those of the last one first. -/
def takenAll : List Node → Except Fault (List (Key × Value))
  | [] => .ok []
  | .map _ entries :: rest => do
    let (more, own) ← members entries
    return (← takenAll rest) ++ (more ++ own)
  | _ :: _ => malformed

end

end Node

/-- The value of a text; an empty one is null. -/
def read (text : List Char) : Except Fault Value := do
  match ← Node.ofTokens? (← tokens text) with
  | none => return .null
  | some node => node.value

end Stencil.Yaml
