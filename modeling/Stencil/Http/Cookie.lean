import Stencil.Binary64.Basic
import Stencil.Http.Date
import Stencil.Http.Line
import Stencil.Http.Url
import Stencil.Text.Blank

/-!
# Cookies

A response may ask to be reminded of something with later requests: it sets a cookie, which is sent
again to the same host and the hosts below it, for paths below a given one. A cookie line names the
cookie and its value, and then fields that say where and how long the cookie is good for.
-/

namespace Stencil.Http

/-- A cookie. -/
structure Cookie where
  /-- The name. -/
  name : List Char
  /-- The value; none if only a name was set. -/
  value : Option (List Char)
  /-- The host that set the cookie, or the domain it is for, with a leading dot. -/
  domain : List Char
  /-- The path below which the cookie is sent. -/
  path : List Char
  /-- Whether the cookie is only sent over a secured connection. -/
  isSecure : Bool := false
  /-- The ports that the cookie is sent to, with commas between them; none for all ports. -/
  ports : Option (List Char) := none
  /-- Whether the cookie is of a version for which its domain is not compared closely. -/
  isLoose : Bool := false
  /-- When the cookie is over, in seconds; none if it is kept as long as its jar. -/
  finish : Option Int := none
  deriving DecidableEq, Repr

/-- Where a request goes, as far as cookies are concerned. -/
structure CookieSite where
  /-- The host. -/
  host : List Char
  /-- The path. -/
  path : List Char
  /-- Whether the connection is secured. -/
  isSecure : Bool := false
  /-- The port; none if the host is not followed by a number. -/
  port : Option (List Char) := some ['8', '0']
  deriving DecidableEq, Repr

namespace CookieSite

/-- A character that stands in a cookie's path as it is. -/
def isPathSafe (c : Char) : Bool := c.isAlphanum || "_.-~%/;:@&=+$,!*'()".toList.contains c

/-- The digits after each percent sign in upper case. -/
def upperEscapes : List Char → List Char
  | '%' :: a :: b :: rest =>
    if (Json.hexValue? a).isSome && (Json.hexValue? b).isSome then
      '%' :: a.toUpper :: b.toUpper :: upperEscapes rest
    else '%' :: upperEscapes (a :: b :: rest)
  | c :: rest => c :: upperEscapes rest
  | [] => []
termination_by cs => cs.length

/-- A path as cookies compare it. -/
def plainPath (path : List Char) : List Char := upperEscapes (Percent.encode isPathSafe path)

/-- A host without the port after it. -/
def withoutPort (host : List Char) : List Char :=
  let port := (host.reverse.takeWhile Char.isDigit).length
  let before := host.take (host.length - port)
  if port ≠ 0 && before.getLast? = some ':' then before.dropLast else host

/-- The port after the first colon of a host; the usual one if there is no colon. -/
def portOf? (host : List Char) : Option (List Char) :=
  match host.dropWhile (· ≠ ':') with
  | [] => some ['8', '0']
  | _ :: port => (Number.readInteger? port).map fun _ => port

/-- Where a request to an address goes. An address without a host is for the one that the header
lines tell. -/
def ofUrl (url : Url) (lines : Lines) : CookieSite :=
  let host := if url.authority.isEmpty then ((Lines.combined? lines "Host").getD "").toList
    else url.authority
  let path := plainPath url.path
  { host := (withoutPort host).map Char.toLower
    path := if path.head? = some '/' then path else '/' :: path
    isSecure := url.scheme = "https".toList || url.scheme = "wss".toList
    port := portOf? url.authority }

/-- The host by its full name: one without a dot is local. -/
def fullHost (site : CookieSite) : List Char :=
  if site.host.contains '.' then site.host else site.host ++ ".local".toList

/-- The path of a cookie that names none: the request's path up to its last slash, which only some
versions keep. -/
def folder (site : CookieSite) (keepsSlash : Bool) : List Char :=
  let upTo := (site.path.reverse.dropWhile (· ≠ '/')).reverse
  let path := if keepsSlash then upTo else upTo.dropLast
  if path.isEmpty then ['/'] else path

end CookieSite

namespace Cookie

/-- A domain with a leading dot. -/
def dotted (domain : List Char) : List Char :=
  if domain.isEmpty || domain.head? = some '.' then domain else '.' :: domain

/-- Whether a domain is that of a site, or one above it. -/
def coversHost (domain : List Char) (site : CookieSite) (isLoose : Bool) : Bool :=
  let above (host : List Char) : Bool := (dotted domain).isSuffixOf host
  (above (dotted site.host) || above (dotted site.fullHost)) &&
    (isLoose || above ('.' :: site.fullHost))

/-- Whether a path is the other one or lies below it. -/
def coversPath (path other : List Char) : Bool :=
  other = path || (path.isPrefixOf other &&
    (path.getLast? = some '/' || (other.drop path.length).head? = some '/'))

/-- Whether a port is among some. -/
def coversPort (ports : List Char) (port : Option (List Char)) : Bool :=
  (ports.splitOn ',').contains (port.getD ['8', '0'])

/-- Whether a cookie is over. A cookie that is over stays in its jar, but is not sent. -/
def isOver (c : Cookie) (now : Int) : Bool := c.finish.any (· ≤ now)

/-- Whether a cookie is sent with a request. -/
def goesTo (c : Cookie) (now : Int) (target : CookieSite) : Bool :=
  coversHost c.domain target c.isLoose && coversPath c.path target.path &&
    (!c.isSecure || target.isSecure) && !c.isOver now &&
    (c.ports.all fun ports => ports.isEmpty || coversPort ports target.port)

/-- The cookie as it is sent. -/
def chars (c : Cookie) : List Char :=
  match c.value with
  | none => c.name
  | some value => c.name ++ '=' :: value

end Cookie

/-- Why a cookie line is of no use. -/
inductive CookieFault where
  /-- The cookie is not set. -/
  | line
  /-- No cookie of the response is set. -/
  | response
  deriving DecidableEq, Repr

/-- The fields of a cookie line. Of most of them only the first one counts. -/
structure CookieFields where
  /-- The domain. -/
  domain : Option (List Char) := none
  /-- The path. -/
  path : Option (List Char) := none
  /-- The ports; without a value the port of the request is meant. -/
  ports : Option (Option (List Char)) := none
  /-- When the cookie is over, in seconds. -/
  finish : Option Int := none
  /-- Whether a maximal age has been told. It counts more than a date. -/
  hasAge : Bool := false
  /-- The version. -/
  version : Option (List Char) := none
  /-- Whether the connection has to be secured. -/
  isSecure : Option Bool := none

namespace CookieFields

/-- A text without the quotes at its ends. -/
def withoutQuotes (cs : List Char) : List Char :=
  let cs := if cs.head? = some '"' then cs.tail else cs
  if cs.getLast? = some '"' then cs.dropLast else cs

/-- The fields after one that needs a value. -/
def needing (fields : CookieFields) (value : Option (List Char))
    (set : List Char → CookieFields) (old : Option (List Char)) :
    Except CookieFault CookieFields :=
  match old, value with
  | some _, _ => .ok fields
  | none, some value => .ok (set value)
  | none, none => .error .line

/-- The fields after one more. -/
def add (now : Present) (fields : CookieFields) (name : List Char) (value : Option (List Char)) :
    Except CookieFault CookieFields :=
  match String.ofList (name.map Char.toLower) with
  | "domain" =>
    needing fields value (fun v => { fields with domain := some (v.map Char.toLower) })
      fields.domain
  | "path" => needing fields value (fun v => { fields with path := some v }) fields.path
  | "version" =>
    needing fields value (fun v => { fields with version := some (withoutQuotes v) })
      fields.version
  | "port" =>
    .ok (if fields.ports.isSome then fields else { fields with ports := some value })
  | "secure" =>
    .ok (if fields.isSecure.isSome then fields
      else { fields with isSecure := some (value ≠ some []) })
  | "expires" =>
    match value.map fun v => DateReading.read now.year (withoutQuotes v) with
    | some .broken => .error .response
    | some (.time seconds) =>
      .ok (if fields.finish.isSome || fields.hasAge then fields
        else { fields with finish := some seconds })
    | _ => .ok fields
  | "max-age" =>
    match value with
    | none => .error .response
    | some age =>
      match Number.readInteger? age with
      | none => .error .line
      | some n => .ok { fields with finish := some (now.seconds + n), hasAge := true }
  | _ => .ok fields

/-- Whether a part of a line tells a date that cannot be read. -/
def isBroken (now : Present) (part : List Char × Option (List Char)) : Bool :=
  String.ofList (part.1.map Char.toLower) = "expires" &&
    part.2.any fun v => DateReading.read now.year (withoutQuotes v) = .broken

/-- The fields of the parts of a line. -/
def ofParts (now : Present) (parts : List (List Char × Option (List Char))) :
    Except CookieFault CookieFields :=
  if parts.any (isBroken now) then .error .response
  else parts.foldlM (fun fields part => add now fields part.1 part.2) {}

/-- Whether the domain that a cookie names for itself, with a leading dot, suits the site that sets
it. -/
def suitsHost (domain : List Char) (origin : CookieSite) (isLoose : Bool) : Bool :=
  let inner := domain.tail
  let host := origin.fullHost
  (inner.contains '.' || ".local".toList.isSuffixOf host) &&
    (isLoose || domain.isSuffixOf host || (inner ++ ".local".toList).isSuffixOf host ||
      host.head? = some '.' || domain.isSuffixOf ('.' :: host))

/-- Whether the port of a site is among those that a cookie names for itself; the ones before it
must be numbers. -/
def suitsPort (origin : CookieSite) : List (List Char) → Bool
  | [] => false
  | port :: rest =>
    (Number.readInteger? port).isSome &&
      (port = origin.port.getD ['8', '0'] || suitsPort origin rest)

end CookieFields

/-- What a response asks for. -/
inductive CookieWish where
  /-- To keep a cookie. -/
  | keep (c : Cookie)
  /-- To forget a cookie. -/
  | forget (domain path name : List Char)
  deriving DecidableEq, Repr

namespace CookieWish

/-- The name and the value of a part of a cookie line. -/
def part (text : List Char) : List Char × Option (List Char) :=
  let text := Text.trim text
  let name := Text.trim (text.takeWhile (· ≠ '='))
  match text.dropWhile (· ≠ '=') with
  | [] => (name, none)
  | _ :: value => (name, some (Text.trim value))

/-- When a cookie is over, as its jar knows it: as a binary number, which must not be too large. -/
def finishOf (fields : CookieFields) : Except CookieFault (Option Int) :=
  match fields.finish with
  | none => .ok none
  | some seconds => ((Binary64.ofInt seconds).truncate?).elim (.error .response) (.ok ∘ some)

/-- What the fields of a cookie of some version ask for. -/
def ofFields (now : Int) (origin : CookieSite) (name : List Char) (value : Option (List Char))
    (fields : CookieFields) (version : Int) : Except CookieFault (Option CookieWish) :=
  let path := match fields.path with
    | some (c :: rest) => CookieSite.plainPath (c :: rest)
    | _ => origin.folder (version ≠ 0)
  let named := fields.domain.map fun d => if d.isEmpty then ['.'] else Cookie.dotted d
  let domain := named.getD origin.fullHost
  let isLoose := decide (version < 0)
  let ports := match fields.ports with
    | none => none
    | some none => origin.port
    | some (some ports) => some (ports.filter fun c => !Text.isBlank c)
  if fields.finish.any (· ≤ now) then return some (.forget domain path name)
  else do
    let finish ← finishOf fields
    if 1 < version || !(named.all fun d => CookieFields.suitsHost d origin isLoose) then
      return none
    else if fields.ports.any Option.isSome &&
        !CookieFields.suitsPort origin ((ports.getD []).splitOn ',') then
      return none
    else
      return some (.keep
        { name, value, domain, path, isSecure := fields.isSecure.getD false, ports, isLoose,
          finish })

/-- What a cookie line asks for. -/
def ofLine (now : Present) (origin : CookieSite) (line : List Char) :
    Except CookieFault (Option CookieWish) := do
  let (name, value) := part ((line.splitOn ';').headD [])
  if name.isEmpty then return none
  let fields ← CookieFields.ofParts now
    ((((line.splitOn ';').drop 1).map part).filter fun p => !p.1.isEmpty)
  match Number.readInteger? (fields.version.getD ['0']) with
  | none => return none
  | some version => ofFields now.seconds origin name value fields version

/-- What the cookie lines of a response ask for. -/
def ofLines? (now : Present) (origin : CookieSite) :
    List (List Char) → Option (List CookieWish)
  | [] => some []
  | line :: rest =>
    match ofLine now origin line with
    | .ok wish => (ofLines? now origin rest).map (wish.toList ++ ·)
    | .error .line => ofLines? now origin rest
    | .error .response => none

end CookieWish

end Stencil.Http
