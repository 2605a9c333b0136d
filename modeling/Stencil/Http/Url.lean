import Stencil.Charset.Unit
import Stencil.Http.Host

/-!
# Addresses

An address has a scheme, a host with a port and perhaps a user, a path, a query and a fragment. Each
part is brought into a normal form when an address is read: letters of scheme and host in lower
case, the usual port of a scheme left out, steps in the path taken, and characters that may not
stand in a part encoded. An address without a scheme or a host is relative.
-/

namespace Stencil.Http

/-- An address. -/
structure Url where
  /-- The scheme, empty if there is none. -/
  scheme : List Char := []
  /-- The user and perhaps a password, empty if there is none. -/
  user : List Char := []
  /-- The host without brackets, empty if there is none. -/
  host : List Char := []
  /-- The port, if it is not the usual one. -/
  port : Option Int := none
  /-- The path. -/
  path : List Char := []
  /-- The query, which may be empty. -/
  query : Option (List Char) := none
  /-- The fragment, which may be empty. -/
  fragment : Option (List Char) := none
  deriving DecidableEq, Repr

namespace Url

/-- The longest text of an address. -/
def maxLength : Nat := 65536

/-- A visible ASCII character or a space that is none of the given ones. -/
def isVisibleExcept (excluded : String) (c : Char) : Bool :=
  decide (32 ≤ c.toNat ∧ c.toNat < 127) && !excluded.toList.contains c

/-- A character that stands in a fragment as it is. -/
def isFragmentChar : Char → Bool := isVisibleExcept " \"<>\x60"

/-- A character that stands in a query as it is. -/
def isQueryChar : Char → Bool := isVisibleExcept " \"#<>"

/-- A character that stands in a path as it is. -/
def isPathChar : Char → Bool := isVisibleExcept " \"#<>?\x60\x7b\x7d"

/-- A character that stands in the user part as it is. -/
def isUserChar : Char → Bool := isVisibleExcept " \"#<>?\x60\x7b\x7d/;=@[\\]^|"

/-- The usual port of a scheme. -/
def usualPort? (scheme : List Char) : Option Int :=
  [("ftp".toList, 21), ("http".toList, 80), ("https".toList, 443), ("ws".toList, 80),
    ("wss".toList, 443)].lookup scheme

/-- The port that a text names, unless it is the usual one. -/
def portOf (scheme text : List Char) : Except UrlFault (Option Int) :=
  if text.isEmpty then .ok none
  else
    match Number.readInteger? text with
    | none => .error (.port (String.ofList text))
    | some n => .ok (if usualPort? scheme = some n then none else some n)

/-- A path with the steps within it taken. A step up from the top is dropped. -/
def takeSteps (path : List Char) : List Char :=
  let parts := path.splitOn '/'
  let kept := parts.foldl (fun way part =>
    if part = ['.'] then way
    else if part = ['.', '.'] then (if way = [] || way = [[]] then way else way.tail)
    else part :: way) []
  if parts.contains ['.'] || parts.contains ['.', '.'] then List.intercalate ['/'] kept.reverse
  else path

/-- The host and the port of an address part, and the user before the last `@`. -/
structure Authority where
  /-- The user. -/
  user : List Char
  /-- The host, with its brackets. -/
  host : List Char
  /-- The text of the port. -/
  port : List Char

/-- The host at the start of a text, and what follows it: a text in brackets, or everything up to a
colon. -/
def splitHost (cs : List Char) : List Char × List Char :=
  let plain := (cs.takeWhile (· ≠ ':'), cs.dropWhile (· ≠ ':'))
  if cs.head? ≠ some '[' then plain
  else
    match cs.reverse.dropWhile (· ≠ ']') with
    | [] => plain
    | before => (before.reverse, cs.drop before.length)

/-- The parts of the text between the slashes and the path. -/
def splitAuthority (cs : List Char) : Authority :=
  let after := (cs.reverse.takeWhile (· ≠ '@')).reverse
  let user := if after.length < cs.length then cs.take (cs.length - after.length - 1) else []
  let (host, rest) := splitHost after
  ⟨user, host, if rest.head? = some ':' then rest.tail else rest⟩

/-- The address of five parts, each of them normalized. -/
def assemble (scheme authority path : List Char) (query fragment : Option (List Char)) :
    Except UrlFault Url := do
  let parts := splitAuthority authority
  let user := Percent.encode isUserChar parts.user
  let host ← Host.normalize parts.host
  let port ← portOf scheme parts.port
  let hasScheme := !scheme.isEmpty
  let hasAuthority := !user.isEmpty || !host.isEmpty || port.isSome
  if hasAuthority && !path.isEmpty && path.head? ≠ some '/' then throw .absolutePath
  if !hasScheme && !hasAuthority then
    if path.take 2 = ['/', '/'] then throw .doubleSlash
    if path.head? = some ':' then throw .leadingColon
  let path := if hasScheme || hasAuthority then takeSteps path else path
  return {
    scheme := scheme.map Char.toLower, user, host, port
    path := Percent.encode isPathChar path
    query := query.map (Percent.encode isQueryChar)
    fragment := fragment.map (Percent.encode isFragmentChar) }

/-- A character of a scheme after its first letter. -/
def isSchemeChar (c : Char) : Bool := c.isAlphanum || c = '+' || c = '.' || c = '-'

/-- The scheme at the start of a text, which may be empty, and what follows its colon. -/
def splitScheme (cs : List Char) : List Char × List Char :=
  let run := cs.takeWhile isSchemeChar
  match cs.drop run.length with
  | ':' :: rest => if run.isEmpty || run.head?.any Char.isAlpha then (run, rest) else ([], cs)
  | _ => ([], cs)

/-- The characters before the first one of a class, and those from it on. -/
def splitAt (isEnd : Char → Bool) (cs : List Char) : List Char × List Char :=
  (cs.takeWhile fun c => !isEnd c, cs.dropWhile fun c => !isEnd c)

/-- An ASCII character that is not visible. -/
def isControl (c : Char) : Bool := decide (c.toNat < 32) || c.toNat = 127

/-- The address that a text spells. -/
def parse (cs : List Char) : Except UrlFault Url :=
  if maxLength < cs.length then .error .tooLong
  else
    let visible := cs.takeWhile fun c => !isControl c
    match cs.drop visible.length with
    | c :: _ => .error (.control c visible.length)
    | [] =>
      let (scheme, rest) := splitScheme cs
      let (authority, rest) := match rest with
        | '/' :: '/' :: more => splitAt (fun c => c = '/' || c = '?' || c = '#') more
        | _ => ([], rest)
      let (path, rest) := splitAt (fun c => c = '?' || c = '#') rest
      let (query, rest) := match rest with
        | '?' :: more =>
          let (query, rest) := splitAt (fun c => c = '#') more
          (some query, rest)
        | _ => (none, rest)
      let fragment := match rest with
        | '#' :: more => some more
        | _ => none
      assemble scheme authority path query fragment

/-- The host in brackets if it is a long number address, and the port. -/
def netloc (url : Url) : List Char :=
  (if url.host.contains ':' then '[' :: url.host ++ [']'] else url.host) ++
    (match url.port with
      | none => []
      | some n => ':' :: Number.intText n)

/-- The user, host and port as they are written. -/
def authority (url : Url) : List Char :=
  (if url.user.isEmpty then [] else url.user ++ ['@']) ++ url.netloc

/-- The text of an address. -/
def text (url : Url) : List Char :=
  (if url.scheme.isEmpty then [] else url.scheme ++ [':']) ++
    (if url.authority.isEmpty then [] else '/' :: '/' :: url.authority) ++ url.path ++
    (match url.query with
      | none => []
      | some query => '?' :: query) ++
    (match url.fragment with
      | none => []
      | some fragment => '#' :: fragment)

/-- The path, a slash if it is empty, and the query. -/
def target (url : Url) : List Char :=
  (if url.path.isEmpty then ['/'] else url.path) ++
    (match url.query with
      | none => []
      | some query => '?' :: query)

/-- Whether an address has both a scheme and a host. -/
def isAbsolute (url : Url) : Bool := !url.scheme.isEmpty && !url.host.isEmpty

/-- An address with another path and query. -/
def withTarget (url : Url) (target : List Char) : Except UrlFault Url :=
  let (path, rest) := splitAt (· = '?') target
  let query := if rest.isEmpty then none else some rest.tail
  assemble url.scheme url.authority path query url.fragment

/-- An address whose path and query end with a slash. -/
def withSlash (url : Url) : Except UrlFault Url :=
  if url.target.getLast? = some '/' then .ok url else url.withTarget (url.target ++ ['/'])

/-- The address that is meant by a text. A relative one is appended to a base, which ends with a
slash. -/
def resolve (base : Url) (cs : List Char) : Except UrlFault Url := do
  let url ← parse cs
  if url.isAbsolute then return url
  else base.withTarget (base.target ++ url.target.dropWhile (· = '/'))

/-- The user name and the password, if there are any. -/
def credentials? (url : Url) : Option (List Char × List Char) :=
  let (name, rest) := splitAt (· = ':') url.user
  let password := rest.drop 1
  if name.isEmpty && password.isEmpty then none
  else some (Charset.text8 (Percent.bytes name), Charset.text8 (Percent.bytes password))

end Url

end Stencil.Http
