import Stencil.Charset.HostName
import Stencil.Http.Address
import Stencil.Http.Domain.Mapping
import Stencil.Http.Domain.Prepared
import Stencil.Http.Percent
import Stencil.Number.Written
import Stencil.Text.Blank
import Stencil.Text.Digit

/-!
# Targets of requests

A request names its target by a path with a query, or by a whole address. Each part is brought into
its plainest form. Without a host of its own a target lies on the host that the request is for.
-/

namespace Stencil.Http

/-- Why the target of a request or its host cannot be read. -/
inductive TargetFault where
  /-- The text has not the form of an address. -/
  | malformed
  /-- A name of another script is no host name. -/
  | name
  deriving DecidableEq, Repr

/-- A host with what may stand around it. -/
structure Place where
  /-- The user. -/
  user : Option (List Char) := none
  /-- The password. -/
  password : Option (List Char) := none
  /-- The host, empty if there is none. -/
  host : List Char := []
  /-- The port. -/
  port : Option Int := none
  deriving DecidableEq, Repr

namespace Place

/-- The greatest port. -/
def maxPort : Int := 65535

/-- The port that a text tells. -/
def portOf (text : List Char) : Except TargetFault (Option Int) :=
  if text.isEmpty then .ok none
  else
    match Number.readInteger? text with
    | none => .error .malformed
    | some n => if 0 ≤ n && n ≤ maxPort then .ok (some n) else .error .malformed

/-- A host and the text of a port. Nothing may stand around the brackets of a host but a port. -/
def splitHost (cs : List Char) : Except TargetFault (List Char × List Char) :=
  match cs.takeWhile (· ≠ '['), cs.dropWhile (· ≠ '[') with
  | host, [] => .ok (host.takeWhile (· ≠ ':'), (host.dropWhile (· ≠ ':')).drop 1)
  | _ :: _, _ => .error .malformed
  | [], _ :: inside =>
    match (inside.dropWhile (· ≠ ']')).drop 1 with
    | [] => .ok (inside.takeWhile (· ≠ ']'), [])
    | ':' :: port => .ok (inside.takeWhile (· ≠ ']'), port)
    | _ => .error .malformed

/-- The parts of a text: what stands before the last at sign is a user and perhaps a password. -/
def ofText (cs : List Char) : Except TargetFault Place := do
  let after := (cs.reverse.takeWhile (· ≠ '@')).reverse
  let before := cs.take (cs.length - after.length - 1)
  let user := before.takeWhile (· ≠ ':')
  let (host, port) ← splitHost after
  return {
    user := if user.isEmpty then none else some user
    password := if before.contains ':' then some ((before.dropWhile (· ≠ ':')).drop 1) else none
    host, port := ← portOf port }

/-- The text of a place. -/
def text (place : Place) : List Char :=
  let port := match place.port with
    | some n => ':' :: Number.intText n
    | none => []
  match place.user, place.password with
  | user, some password => user.getD [] ++ ':' :: password ++ '@' :: place.host ++ port
  | some user, none => user ++ '@' :: place.host ++ port
  | none, none => place.host ++ port

/-- A number address in its shortest form, in brackets if it is long. A zone may follow after a
percent sign. -/
def number? (cs : List Char) : Option (List Char) :=
  let before := cs.takeWhile (· ≠ '%')
  let zone := cs.drop before.length
  if (Address.short? before).isSome then some (before ++ zone)
  else (Address.long? before).map fun groups => '[' :: Address.longText groups ++ zone ++ [']']

/-- Whether a host may be a number address. -/
def mayBeNumber (cs : List Char) : Bool :=
  cs.contains ':' || cs.getLast?.any fun c => (Text.digitValue? c).isSome

/-- The ASCII form of a name of another script, by the newer rules or else by the older ones. -/
def asciiName (cs : List Char) : Except TargetFault (List Char) :=
  match (Domain.mapName? cs).map Domain.encode with
  | some (.ok name) => .ok name
  | _ =>
    match Domain.preparedName? cs with
    | some name => .ok name
    | none => .error .name

/-- A host in its plainest form. -/
def plainHost (cs : List Char) : Except TargetFault (List Char) :=
  match if mayBeNumber cs then number? cs else none with
  | some number => .ok number
  | none => if Text.isAscii cs then .ok (cs.map Char.toLower) else asciiName cs

/-- The host without brackets around it. -/
def bareHost (host : List Char) : List Char :=
  if host.contains '[' then (host.drop 1).dropLast else host

/-- A character that stands everywhere as it is. -/
def isPlain (c : Char) : Bool := c.isAlphanum || "-._~!$'()*,+&=;".toList.contains c

/-- The usual port of a scheme. -/
def usualPort? (scheme : List Char) : Option Int :=
  [("ftp".toList, 21), ("http".toList, 80), ("https".toList, 443), ("ws".toList, 80),
    ("wss".toList, 443)].lookup scheme

/-- A place without a port that is the usual one of a scheme. -/
def withoutUsualPort (scheme : List Char) (place : Place) : Place :=
  if place.port.isSome && place.port = usualPort? scheme then
    let host := bareHost place.host
    { place with
      host := if host.contains ':' then '[' :: host ++ [']'] else host
      port := none }
  else place

end Place

/-- The target of a request. -/
structure Target where
  /-- The scheme, empty if there is none. -/
  scheme : List Char := []
  /-- The place, if there is one. -/
  place : Option Place := none
  /-- The path. -/
  path : List Char := []
  /-- The query, without its mark. -/
  query : List Char := []
  /-- The fragment, without its mark. -/
  fragment : List Char := []
  deriving DecidableEq, Repr

namespace Target

/-- A character that stands in a path as it is. -/
def isPathChar (c : Char) : Bool := Place.isPlain c || c = '@' || c = ':' || c = '/'

/-- A character that stands in a query or a fragment as it is. -/
def isQueryChar (c : Char) : Bool := isPathChar c || c = '?'

/-- A path in its plainest form. -/
def plainPath (cs : List Char) : List Char :=
  Percent.plain isPathChar (fun c => c = '/' || c = '+') cs

/-- A query in its plainest form: a plus sign stands for a blank. -/
def plainQuery (cs : List Char) : List Char :=
  (Percent.plain (fun c => isQueryChar c || c = ' ') (fun c => "=+&; ".toList.contains c) cs).map
    fun c => if c = ' ' then '+' else c

/-- A fragment in its plainest form. -/
def plainFragment (cs : List Char) : List Char := Percent.plain isQueryChar (fun _ => false) cs

/-- A path with the steps in it taken. A step up from the top is dropped. -/
def takeSteps (path : List Char) : List Char :=
  let (top, rest) := match path with
    | '/' :: rest => (['/'], rest)
    | rest => ([], rest)
  let steps := rest.splitOn '/'
  let isStep (step : List Char) : Bool := step = ['.'] || step = ['.', '.']
  let way := steps.foldl (fun way step =>
    if step = ['.', '.'] then way.tail else if step = ['.'] then way else step :: way) []
  let way := if steps.getLast?.any isStep then [] :: way else way
  top ++ ['/'].intercalate way.reverse

/-- A character of a scheme. -/
def isSchemeChar (c : Char) : Bool := c.isAlphanum || c = '+' || c = '-' || c = '.'

/-- The scheme at the start of a text and what follows it. -/
def splitScheme (cs : List Char) : List Char × List Char :=
  let run := cs.takeWhile isSchemeChar
  match run, cs.drop run.length with
  | _ :: _, ':' :: rest => (run.map Char.toLower, rest)
  | _, _ => ([], cs)

/-- Whether the brackets in the text of a place are in order: there are both of them or none, and a
long number address or one of a later version stands in them. -/
def hasBrackets (cs : List Char) : Bool :=
  if cs.contains '[' && cs.contains ']' then
    let inside := ((cs.dropWhile (· ≠ '[')).drop 1).takeWhile (· ≠ ']')
    match inside with
    | 'v' :: rest =>
      let digits := rest.takeWhile fun c => (Json.hexValue? c).isSome
      match digits, rest.drop digits.length with
      | _ :: _, '.' :: _ :: _ => true
      | _, _ => false
    | inside => inside.contains ':'
  else !cs.contains '[' && !cs.contains ']'

/-- Whether the text of a place looks like one that ends elsewhere. -/
def looksSplit (cs : List Char) : Bool :=
  let kept := cs.filter fun c => !"@:#?".toList.contains c
  let seen := Text.compatible kept
  kept ≠ seen && seen.any fun c => "/?#@:".toList.contains c

/-- The schemes whose addresses need a host. -/
def hostSchemes : List String := ["http", "https", "ws", "wss", "ftp"]

/-- The place that a text names, with each part in its plainest form. -/
def placeOf (scheme cs : List Char) : Except TargetFault Place := do
  if !hasBrackets cs || looksSplit cs then throw .malformed
  let place ← Place.ofText cs
  if place.host.isEmpty && hostSchemes.contains (String.ofList scheme) then throw .malformed
  let quoted (cs : List Char) : List Char := Percent.plain Place.isPlain (fun _ => false) cs
  return { place with
    user := place.user.map quoted
    password := place.password.map quoted
    host := ← Place.plainHost place.host }

/-- Whether a character is skipped at the start of a target. -/
def isLeading (c : Char) : Bool := c.toNat ≤ 32

/-- Whether a character is skipped everywhere in a target. -/
def isSkipped (c : Char) : Bool := c = '\t' || c = '\r' || c = '\n'

/-- The target that a text spells. -/
def ofText (cs : List Char) : Except TargetFault Target := do
  let cs := (cs.dropWhile isLeading).filter fun c => !isSkipped c
  let (scheme, rest) := splitScheme cs
  let (authority, rest) := match rest with
    | '/' :: '/' :: more =>
      let isEnd (c : Char) : Bool := c = '/' || c = '?' || c = '#'
      (more.takeWhile fun c => !isEnd c, more.dropWhile fun c => !isEnd c)
    | _ => ([], rest)
  let fragment := (rest.dropWhile (· ≠ '#')).drop 1
  let rest := rest.takeWhile (· ≠ '#')
  let query := (rest.dropWhile (· ≠ '?')).drop 1
  let path := plainPath (rest.takeWhile (· ≠ '?'))
  let place ← if authority.isEmpty then pure none else (placeOf scheme authority).map some
  return {
    scheme, place
    path := if place.isSome && path.contains '.' then takeSteps path else path
    query := plainQuery query
    fragment := plainFragment fragment }

/-- Whether the host of a target has a meaning. -/
def hasMeaning (target : Target) : Bool :=
  match target.place with
  | none => true
  | some place =>
    let host := Place.bareHost place.host
    Place.mayBeNumber host || (Domain.decode host).isOk ||
      (Charset.name.readStrictly (host.map fun c => c.toNat.toUInt8)).isOk

/-- The schemes whose addresses have slashes for the place even if there is none. -/
def placeSchemes : List String := [
  "ftp", "http", "gopher", "nntp", "telnet", "imap", "wais", "file", "mms", "https", "shttp",
  "snews", "prospero", "rtsp", "rtsps", "rtspu", "rsync", "svn", "svn+ssh", "sftp", "nfs", "git",
  "git+ssh", "ws", "wss"]

/-- The address of a scheme, the text of a place, and the other parts of a target. -/
def join (scheme place : List Char) (target : Target) : List Char :=
  let path := target.path
  let start :=
    if !place.isEmpty || placeSchemes.contains (String.ofList scheme) ||
        path.take 2 = ['/', '/'] then
      if scheme.isEmpty then '/' :: '/' :: place ++ path
      else scheme ++ "://".toList ++ place ++ path
    else if scheme.isEmpty then path
    else scheme ++ ':' :: path
  start ++ (if target.query.isEmpty then [] else '?' :: target.query) ++
    (if target.fragment.isEmpty then [] else '#' :: target.fragment)

/-- The scheme of a server. -/
def serverScheme : List Char := "http".toList

/-- The text of the place that a host line names. A usual port is left out, also one that is only
told by the name. -/
def hostText (line : List Char) : Except TargetFault (List Char) := do
  if line.isEmpty then return []
  let place ← Place.ofText line
  let quoted (cs : List Char) : List Char := Percent.encode Place.isPlain cs
  let place := { place with
    user := place.user.map quoted
    password := place.password.map quoted
    host := ← Place.plainHost place.host }
  let text := (place.withoutUsualPort serverScheme).text
  let again ← Place.ofText text
  return if again.port.isSome && again.port = Place.usualPort? serverScheme then
      (again.withoutUsualPort serverScheme).text
    else text

/-- The full address of a target. Without a scheme of its own, or with that of the server, a target
without a place lies on the host that a line names. -/
def address (target : Target) (hostLine : List Char) : Except TargetFault (List Char) :=
  match target.place with
  | some place =>
    .ok (join target.scheme (place.withoutUsualPort target.scheme).text target)
  | none =>
    if target.scheme.isEmpty || target.scheme = serverScheme then
      (hostText hostLine).map fun place => join serverScheme place target
    else .ok (join target.scheme [] target)

end Target

end Stencil.Http
