import Stencil.Failure
import Stencil.Http.Url

/-!
# Being sent elsewhere

A response may send a client to another place. The client does not go there, but it works out the
address, so that a place that cannot be worked out is a failure.
-/

namespace Stencil.Http.Redirect

/-- The statuses that send a client elsewhere. -/
def statuses : List Int := [301, 302, 303, 307, 308]

/-- The schemes of addresses that others may be relative to. -/
def hierarchical : List String := [
  "", "ftp", "http", "gopher", "nntp", "imap", "wais", "file", "https", "shttp", "mms", "prospero",
  "rtsp", "rtsps", "rtspu", "sftp", "svn", "svn+ssh", "ws", "wss"]

/-- The defect of a name that is no host name. -/
def defectOf : DomainFault → Defect
  | .malformed => .domainForm
  | .codePoint => .domainCodePoint
  | .context => .domainContext
  | .direction => .domainDirection

/-- The host of an address as it is meant. -/
def hostOf (url : Url) : Outcome (List Char) :=
  (Host.meaning url.host).mapError fun fault => .defect (defectOf fault)

/-- An address without a host, with that of the request instead. -/
def withHostOf (request url : Url) : Outcome Url := do
  let host ← hostOf request
  (Url.assemble url.scheme { url with host }.authority url.path url.query url.fragment).mapError
    fun _ => .defect .invalidUrl

/-- The scheme and the host of the place that an address means, seen from that of the request. -/
def seenFrom (request place : Url) : Url :=
  if place.isAbsolute || !hierarchical.contains (String.ofList request.scheme) ||
      !place.authority.isEmpty then
    { place with scheme := if place.scheme.isEmpty then request.scheme else place.scheme }
  else request

/-- Works out the place that a text names, as far as that can fail: the result is the fault of a
text that is no address. With cookies to be sent the place must have a scheme. -/
def check (request : Url) (hasCookies : Bool) (text : List Char) :
    Outcome (Option UrlFault) := do
  match Url.parse text with
  | .error fault => return some fault
  | .ok place =>
    let place ← if place.scheme.isEmpty then pure place
      else do
        let host ← hostOf place
        if host.isEmpty then withHostOf request place else pure place
    let _ ← hostOf (seenFrom request place)
    let _ ← hostOf request
    if hasCookies && place.scheme.isEmpty &&
        !hierarchical.contains (String.ofList request.scheme) then Outcome.defect .value
    return none

end Stencil.Http.Redirect
