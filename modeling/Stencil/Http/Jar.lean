import Stencil.Http.Cookie

/-!
# Jars of cookies

A jar holds the cookies received so far, by their domains and then by their paths, each in the order
in which they were first heard of. Of two cookies of the same name, domain and path the later one
counts.
-/

namespace Stencil.Http

/-- The cookies received so far. -/
abbrev Jar := List (List Char × List (List Char × List Cookie))

namespace Jar

/-- What a key leads to, changed; a key that is not there yet comes last. -/
def alter {α : Type} (key : List Char) (change : List α → List α) :
    List (List Char × List α) → List (List Char × List α)
  | [] => [(key, change [])]
  | entry :: rest =>
    if entry.1 = key then (key, change entry.2) :: rest else entry :: alter key change rest

/-- A cookie among those of the same domain and path. -/
def put (c : Cookie) : List Cookie → List Cookie
  | [] => [c]
  | other :: rest => if other.name = c.name then c :: rest else other :: put c rest

/-- The jar with a cookie. -/
def keep (jar : Jar) (c : Cookie) : Jar := alter c.domain (alter c.path (put c)) jar

/-- The jar without a cookie. -/
def forget (jar : Jar) (domain path name : List Char) : Jar :=
  jar.map fun (d, paths) => (d, if d ≠ domain then paths else
    paths.map fun (p, cookies) =>
      (p, if p ≠ path then cookies else cookies.filter fun c => c.name ≠ name))

/-- The jar after wishes: first the cookies that are over are forgotten, then the others are
kept. -/
def grant (jar : Jar) (wishes : List CookieWish) : Jar :=
  let left := wishes.foldl (fun jar wish =>
    match wish with
    | .forget domain path name => forget jar domain path name
    | .keep _ => jar) jar
  wishes.foldl (fun jar wish =>
    match wish with
    | .forget .. => jar
    | .keep c => keep jar c) left

/-- The jar after a response of the given lines. -/
def receive (jar : Jar) (now : Present) (origin : CookieSite) (lines : Lines) : Jar :=
  let set := (lines.filter fun line => Lines.sameName line.1 "set-cookie").map
    fun line => line.2.toList
  match CookieWish.ofLines? now origin set with
  | some wishes => grant jar wishes
  | none => jar

/-- All cookies of a jar. -/
def cookies (jar : Jar) : List Cookie :=
  jar.flatMap fun (_, paths) => paths.flatMap Prod.snd

/-- A cookie put before the first one of a shorter path. -/
def insertLonger (c : Cookie) : List Cookie → List Cookie
  | [] => [c]
  | other :: rest =>
    if other.path.length < c.path.length then c :: other :: rest else other :: insertLonger c rest

/-- The value of the line that sends the cookies for a site, those of longer paths first. -/
def line? (jar : Jar) (now : Int) (target : CookieSite) : Option String :=
  let sent := jar.cookies.filter fun c => c.goesTo now target
  match sent.foldl (fun sorted c => insertLonger c sorted) [] with
  | [] => none
  | cookies => some (String.ofList (List.intercalate [';', ' '] (cookies.map Cookie.chars)))

end Jar

end Stencil.Http
