import Stencil.Path.Token

/-!
# Reading path queries

A query starts anywhere: at the document, at the value at hand, or with a step. Steps are joined by
one or two points, and queries by bars and ampersands, which bind closer than points; two points
bind least. Brackets belong to everything before them. In a condition a comparison binds closest,
then the joining of conditions that must both hold, then that of which one must hold. A negation
stands before a query only, and what a query is compared with is a fixed value or a query that
selects at most one value by names and places.

The supported dialect goes no further. A query that joins others by `where` or by arithmetic, that
sorts in brackets, that goes up to a parent, or that applies anything but the length to what it
selects, is malformed.
-/

namespace Stencil.Path

/-- Something read from the start of a list of tokens, and the tokens that follow. -/
abbrev Parsed (α : Type) := Option (α × List Token)

/-- More names after a comma. -/
def parseNames : List Token → Parsed (List String)
  | .comma :: .name s :: rest => (parseNames rest).map fun (names, after) => (s :: names, after)
  | .comma :: .quoted s :: rest => (parseNames rest).map fun (names, after) => (s :: names, after)
  | rest => some ([], rest)

/-- More places after a comma. -/
def parsePlaces : List Token → Parsed (List Int)
  | .comma :: .integer n :: rest =>
    (parsePlaces rest).map fun (places, after) => (n :: places, after)
  | rest => some ([], rest)

/-- A bound of a slice, which may be absent. -/
def parseBound : List Token → Option Int × List Token
  | .integer n :: rest => (some n, rest)
  | rest => (none, rest)

/-- The rest of a slice after its first bound and colon. -/
def parseSlice (start : Option Int) (tokens : List Token) : Parsed Step :=
  let (stop, rest) := parseBound tokens
  match rest with
  | .colon :: more =>
    let (step, after) := parseBound more
    some (.slice start stop step, after)
  | _ => some (.slice start stop none, rest)

/-- What stands in brackets, conditions excepted. -/
def parseInside (tokens : List Token) : Parsed Step :=
  match tokens with
  | .star :: rest => some (.wildcard, rest)
  | .name s :: rest => (parseNames rest).map fun (names, after) => (.members (s :: names), after)
  | .quoted s :: rest => (parseNames rest).map fun (names, after) => (.members (s :: names), after)
  | .colon :: rest => parseSlice none rest
  | .integer n :: .colon :: rest => parseSlice (some n) rest
  | .integer n :: rest =>
    (parsePlaces rest).map fun (places, after) => (.items (n :: places), after)
  | _ => none

/-- A fixed value in a comparison. -/
def parseLiteral : List Token → Parsed Value
  | .integer n :: rest => some (.int n, rest)
  | .fraction x :: rest => some (.binary x, rest)
  | .quoted s :: rest => some (.text s, rest)
  | .name s :: rest =>
    if s = "true" then some (.bool true, rest)
    else if s = "false" then some (.bool false, rest)
    else if s = "null" then some (.null, rest)
    else some (.text s, rest)
  | _ => none

/-- A query with a step in front, and what follows it. -/
def withStep (step : Step) (found : Query × List Token) : Query × List Token :=
  (step :: found.1, found.2)

/-- The rest of a query that selects at most one value: names after points, and names and places in
brackets. -/
def parseSingular : List Token → Query × List Token
  | .dot :: .name s :: rest => withStep (.members [s]) (parseSingular rest)
  | .dot :: .quoted s :: rest => withStep (.members [s]) (parseSingular rest)
  | .opening :: .name s :: .closing :: rest => withStep (.members [s]) (parseSingular rest)
  | .opening :: .quoted s :: .closing :: rest => withStep (.members [s]) (parseSingular rest)
  | .opening :: .integer n :: .closing :: rest => withStep (.items [n]) (parseSingular rest)
  | rest => ([], rest)

/-- The comparison of a query with what follows its relation. -/
def parseComparison (query : Query) (relation : Relation) (tokens : List Token) :
    Parsed Condition :=
  match tokens with
  | .dollar :: rest =>
    let (other, after) := parseSingular rest
    some (.compareWith query relation (.root :: other), after)
  | .here :: rest =>
    let (other, after) := parseSingular rest
    some (.compareWith query relation (.self :: other), after)
  | _ =>
    (parseLiteral tokens).map fun (literal, after) => (.compare query relation literal, after)

/-- A query by itself, or its comparison if a relation follows it. -/
def parseRelated (query : Query) (tokens : List Token) : Parsed Condition :=
  match tokens with
  | .relation relation :: rest => parseComparison query relation rest
  | _ => some (.selects query, tokens)

/-- What joins two queries. -/
inductive Joint where
  /-- Two points. -/
  | below
  /-- A point. -/
  | child
  /-- A bar. -/
  | union
  /-- An ampersand. -/
  | intersection
  deriving DecidableEq, Repr

namespace Joint

/-- How close a joint binds. -/
def level : Joint → Nat
  | .below => 1
  | .child => 2
  | .union => 3
  | .intersection => 4

/-- The joint that a token is. -/
def ofToken? : Token → Option Joint
  | .dots => some .below
  | .dot => some .child
  | .bar => some .union
  | .ampersand => some .intersection
  | _ => none

/-- Two queries joined to one. -/
def join (joint : Joint) (first second : Query) : Query :=
  match joint with
  | .below => first ++ .descend :: second
  | .child => first ++ second
  | .union => [.union first second]
  | .intersection => [.intersection first second]

end Joint

mutual

/-- A query whose joints bind at least as close as `level`, and what follows it. Everything read
here takes at least one token or goes one level down in the grammar, so `steps` need only grow with
the number of tokens. -/
def parseQuery : Nat → Nat → List Token → Parsed Query
  | 0, _, _ => none
  | steps + 1, level, tokens =>
    match parseFirst steps tokens with
    | none => none
    | some (query, rest) => parseRest steps level query rest

/-- What stands first in a query or after a joint. -/
def parseFirst : Nat → List Token → Parsed Query
  | 0, _ => none
  | steps + 1, tokens =>
    match tokens with
    | .dollar :: rest => some ([.root], rest)
    | .here :: rest => some ([.self], rest)
    | .star :: rest => some ([.wildcard], rest)
    | .size :: rest => some ([.size], rest)
    | .integer n :: rest => some ([.members [String.ofList (Number.intText n)]], rest)
    | .name s :: rest =>
      (parseNames rest).map fun (names, after) => ([.members (s :: names)], after)
    | .quoted s :: rest =>
      (parseNames rest).map fun (names, after) => ([.members (s :: names)], after)
    | .opening :: rest =>
      match parseInside rest with
      | some (step, .closing :: after) => some ([step], after)
      | _ => none
    | .openGroup :: rest =>
      match parseQuery steps 0 rest with
      | some (query, .closeGroup :: after) => some (query, after)
      | _ => none
    | _ => none

/-- The query that goes on from one that is read. Brackets belong to the whole query before them, so
they are left to the lowest level. -/
def parseRest : Nat → Nat → Query → List Token → Parsed Query
  | 0, _, _, _ => none
  | steps + 1, level, query, tokens =>
    match tokens with
    | .opening :: rest =>
      if level = 0 then
        match parseBrackets steps rest with
        | none => none
        | some (step, after) => parseRest steps level (query ++ [step]) after
      else some (query, tokens)
    | token :: rest =>
      match Joint.ofToken? token with
      | none => some (query, tokens)
      | some joint =>
        if joint.level < level then some (query, tokens)
        else
          match parseQuery steps (joint.level + 1) rest with
          | none => none
          | some (second, after) => parseRest steps level (joint.join query second) after
    | [] => some (query, [])

/-- A step in brackets after a query, whose opening bracket is already read. -/
def parseBrackets : Nat → List Token → Parsed Step
  | 0, _ => none
  | steps + 1, tokens =>
    let inside : Parsed Step := match tokens with
      | .question :: rest =>
        (parseEither steps rest).map fun (condition, after) => (Step.filter condition, after)
      | _ => parseInside tokens
    match inside with
    | some (step, .closing :: rest) => some (step, rest)
    | _ => none

/-- Conditions of which one must hold. -/
def parseEither : Nat → List Token → Parsed Condition
  | 0, _ => none
  | steps + 1, tokens =>
    match parseBoth steps tokens with
    | some (first, .either :: rest) =>
      (parseEither steps rest).map fun (second, after) => (.or first second, after)
    | found => found

/-- Conditions that must all hold. -/
def parseBoth : Nat → List Token → Parsed Condition
  | 0, _ => none
  | steps + 1, tokens =>
    match parseSimple steps tokens with
    | some (first, .both :: rest) =>
      (parseBoth steps rest).map fun (second, after) => (.and first second, after)
    | some (first, .ampersand :: rest) =>
      (parseBoth steps rest).map fun (second, after) => (.and first second, after)
    | found => found

/-- A negation, a group, or a comparison. A group that holds nothing but a query is itself one. -/
def parseSimple : Nat → List Token → Parsed Condition
  | 0, _ => none
  | steps + 1, tokens =>
    match tokens with
    | .bang :: rest => (parseQuery steps 0 rest).map fun (query, after) => (.lacks query, after)
    | .openGroup :: rest =>
      match parseEither steps rest with
      | some (.selects query, .closeGroup :: after) =>
        match parseRest steps 0 query after with
        | none => none
        | some (query, after) => parseRelated query after
      | some (condition, .closeGroup :: after) => some (condition, after)
      | _ => none
    | _ =>
      match parseQuery steps 0 tokens with
      | some (query, after) => parseRelated query after
      | none => none

end

/-- The query that tokens spell. -/
def parse? (tokens : List Token) : Option Query :=
  match parseQuery (8 * tokens.length + 8) 0 tokens with
  | some (query, []) => some query
  | _ => none

/-- The query that a text spells, if it spells one. -/
def read? (text : List Char) : Except TokenFault (Option Query) := (tokens text).map parse?

end Stencil.Path
