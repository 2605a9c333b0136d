import Stencil.Yaml.Token

/-!
# Nodes of a YAML text

A text holds at most one document, and a document is a tree of nodes. A node may have a name, by
which later nodes repeat it, and a tag, which says what it is. Tags are written with handles; the
lines before a document say what the handles stand for.
-/

namespace Stencil.Yaml

/-- What says which value a scalar stands for. -/
inductive ScalarForm where
  /-- The text itself decides. -/
  | plain
  /-- It was written in quotes or as a block, and is a text. -/
  | quoted
  /-- A tag decides. -/
  | tagged (name : String)
  deriving DecidableEq, Repr

/-- A node. Collections may have a tag. -/
inductive Node where
  /-- A scalar. -/
  | scalar (form : ScalarForm) (text : String)
  /-- A list. -/
  | list (tag : Option String) (items : List Node)
  /-- A mapping, whose keys are nodes as well. -/
  | map (tag : Option String) (entries : List (Node × Node))
  /-- A collection that stands inside itself, in the place where it comes again. -/
  | endless
  deriving Repr, Inhabited

/-- What stands where nothing is written. -/
def Node.absent : Node := .scalar .plain ""

/-- What is known while the tokens of a document are read. -/
structure Reading where
  /-- The tokens to come. -/
  tokens : List Token
  /-- What the handles of tags stand for. -/
  handles : List (String × String)
  /-- The named nodes; one that is not complete yet has no node. -/
  anchors : List (String × Option Node) := []

/-- A step of reading. -/
abbrev NodeReader (α : Type) := StateT Reading (Except Fault) α

/-- The handles that need not be declared. -/
def defaultHandles : List (String × String) := [("!", "!"), ("!!", "tag:yaml.org,2002:")]

namespace NodeReader

/-- The next token. -/
def peek? : NodeReader (Option Token) := do return (← get).tokens.head?

/-- Takes the next token. -/
def advance : NodeReader Unit := modify fun r => { r with tokens := r.tokens.tail }

/-- Whether the next token is one of the given ones. -/
def atAny (ts : List Token) : NodeReader Bool := do
  match ← peek? with
  | some t => return ts.contains t
  | none => return false

/-- Takes the next token if it is the given one. -/
def accept (t : Token) : NodeReader Bool := do
  if ← atAny [t] then do
    advance
    return true
  else return false

/-- Takes the given token. -/
def expect (t : Token) : NodeReader Unit := do
  unless ← accept t do throw .malformed

/-- The name of the node that follows, if the next token gives one. -/
def anchor? : NodeReader (Option String) := do
  match ← peek? with
  | some (.anchor name) =>
    advance
    return some name
  | _ => return none

/-- The tag of the node that follows, if the next token gives one. -/
def tag? : NodeReader (Option String) := do
  match ← peek? with
  | some (.tag name) =>
    advance
    match name.handle with
    | none => return some name.suffix
    | some handle =>
      match (← get).handles.lookup handle with
      | some start => return some (start ++ name.suffix)
      | none => throw .malformed
  | _ => return none

/-- The name and the tag of the node that follows, in either order. -/
def properties : NodeReader (Option String × Option String) := do
  match ← anchor? with
  | some name => return (some name, ← tag?)
  | none =>
    match ← tag? with
    | some tag => return (← anchor?, some tag)
    | none => return (none, none)

/-- The node of a name. -/
def repeated (name : String) : NodeReader Node := do
  match (← get).anchors.lookup name with
  | some (some node) => return node
  | some none => return .endless
  | none => throw .malformed

/-- Announces the name of a node that is about to be read. No two nodes have the same name. -/
def announce : Option String → NodeReader Unit
  | none => pure ()
  | some name => do
    if ((← get).anchors.lookup name).isSome then throw .malformed
    modify fun r => { r with anchors := (name, none) :: r.anchors }

/-- Gives a name to a node that has been read. -/
def attach : Option String → Node → NodeReader Unit
  | none, _ => pure ()
  | some name, node => modify fun r => { r with
      anchors := r.anchors.map fun entry => if entry.1 = name then (name, some node) else entry }

/-- A tag that says nothing. -/
def isNeutral (tag : Option String) : Bool := tag = none || tag = some "!"

/-- The tag of a collection. -/
def collectionTag (tag : Option String) : Option String := if isNeutral tag then none else tag

/-- What decides on a scalar that has the given tag. -/
def formOf (tag : Option String) (isPlain : Bool) : ScalarForm :=
  match tag with
  | none => if isPlain then .plain else .quoted
  | some name => if name = "!" then .plain else .tagged name

mutual

/-- A node. Inside brackets `block` is false; a list that is not indented may stand only where a
mapping's key or value is expected. -/
def node (block unindented : Bool) : Nat → NodeReader Node
  | 0 => throw .malformed
  | steps + 1 => do
    match ← peek? with
    | some (.alias name) =>
      advance
      repeated name
    | _ =>
      let (name, tag) ← properties
      announce name
      let found ← content block unindented (name.isSome || tag.isSome) tag steps
      attach name found
      return found

/-- What follows the name and the tag of a node. After one of them it may be missing. -/
def content (block unindented described : Bool) (tag : Option String) : Nat → NodeReader Node
  | 0 => throw .malformed
  | steps + 1 => do
    match ← peek? with
    | some .blockEntry =>
      if unindented then return .list (collectionTag tag) (← unindentedItems steps)
      else if described then return .scalar (formOf tag true) ""
      else throw .malformed
    | some (.scalar text isPlain) =>
      advance
      return .scalar (formOf tag isPlain) text
    | some .flowListStart =>
      advance
      return .list (collectionTag tag) (← flowItems true steps)
    | some .flowMapStart =>
      advance
      return .map (collectionTag tag) (← flowEntries true steps)
    | some .blockListStart =>
      if block then
        advance
        return .list (collectionTag tag) (← blockItems steps)
      else if described then return .scalar (formOf tag true) ""
      else throw .malformed
    | some .blockMapStart =>
      if block then
        advance
        return .map (collectionTag tag) (← blockEntries steps)
      else if described then return .scalar (formOf tag true) ""
      else throw .malformed
    | _ => if described then return .scalar (formOf tag true) "" else throw .malformed

/-- A node, unless one of the given tokens shows that there is none. -/
def optional (block unindented : Bool) (ends : List Token) : Nat → NodeReader Node
  | 0 => throw .malformed
  | steps + 1 => do
    if ← atAny ends then return .absent else node block unindented steps

/-- The items of an indented list. -/
def blockItems : Nat → NodeReader (List Node)
  | 0 => throw .malformed
  | steps + 1 => do
    if ← accept .blockEntry then
      let item ← optional true false [.blockEntry, .blockEnd] steps
      return item :: (← blockItems steps)
    else
      expect .blockEnd
      return []

/-- The items of a list that is not indented. -/
def unindentedItems : Nat → NodeReader (List Node)
  | 0 => throw .malformed
  | steps + 1 => do
    if ← accept .blockEntry then
      let item ← optional true false [.blockEntry, .key, .value, .blockEnd] steps
      return item :: (← unindentedItems steps)
    else return []

/-- The value of an entry whose end the given tokens show; without a colon it is missing. -/
def entryValue (block : Bool) (ends : List Token) : Nat → NodeReader Node
  | 0 => throw .malformed
  | steps + 1 => do
    if ← accept .value then optional block block ends steps else return .absent

/-- The entries of an indented mapping. -/
def blockEntries : Nat → NodeReader (List (Node × Node))
  | 0 => throw .malformed
  | steps + 1 => do
    if ← accept .key then
      let key ← optional true true [.key, .value, .blockEnd] steps
      let value ← entryValue true [.key, .value, .blockEnd] steps
      return (key, value) :: (← blockEntries steps)
    else
      expect .blockEnd
      return []

/-- The items of a list in brackets. An item with a marked key is a mapping of a single entry. -/
def flowItems (first : Bool) : Nat → NodeReader (List Node)
  | 0 => throw .malformed
  | steps + 1 => do
    if ← accept .flowListEnd then return []
    else
      unless first do expect .flowEntry
      if ← accept .key then
        let key ← optional false false [.value, .flowEntry, .flowListEnd] steps
        let value ← entryValue false [.flowEntry, .flowListEnd] steps
        return .map none [(key, value)] :: (← flowItems false steps)
      else if ← accept .flowListEnd then return []
      else
        let item ← node false false steps
        return item :: (← flowItems false steps)

/-- The entries of a mapping in braces. An item that is no marked key is a key without a value. -/
def flowEntries (first : Bool) : Nat → NodeReader (List (Node × Node))
  | 0 => throw .malformed
  | steps + 1 => do
    if ← accept .flowMapEnd then return []
    else
      unless first do expect .flowEntry
      if ← accept .key then
        let key ← optional false false [.value, .flowEntry, .flowMapEnd] steps
        let value ← entryValue false [.flowEntry, .flowMapEnd] steps
        return (key, value) :: (← flowEntries false steps)
      else if ← accept .flowMapEnd then return []
      else
        let key ← node false false steps
        return (key, .absent) :: (← flowEntries false steps)

end

/-- The lines before a document: each handle is declared once, and so is the version. -/
def directives : Bool → List (String × String) → List Token →
    Except Fault (List (String × String) × List Token)
  | seen, handles, .directive (.version major) :: rest =>
    if seen || major ≠ 1 then malformed else directives true handles rest
  | seen, handles, .directive (.handle name start) :: rest =>
    if (handles.lookup name).isSome then malformed
    else directives seen ((name, start) :: handles) rest
  | seen, handles, .directive .other :: rest => directives seen handles rest
  | _, handles, rest => .ok (handles ++ defaultHandles, rest)

/-- The steps that suffice for a number of tokens. -/
def stepsFor (ts : List Token) : Nat := 6 * ts.length + 6

/-- Only marks for the end of the document may follow it. -/
def isOver (ts : List Token) : Bool := ts.all (· = .documentEnd)

/-- The root node of a document whose first line has been passed. -/
def root (handles : List (String × String)) (ts : List Token) : Except Fault Node := do
  let (found, r) ← (node true false (stepsFor ts)).run { tokens := ts, handles }
  if isOver r.tokens then return found else malformed

/-- The root node of a document whose start is marked. It may be missing. -/
def markedRoot (ts : List Token) : Except Fault Node := do
  let (handles, rest) ← directives false [] ts
  match rest with
  | .documentStart :: rest =>
    match rest with
    | [] => return .absent
    | .documentEnd :: rest => if isOver rest then return .absent else malformed
    | .documentStart :: _ => malformed
    | .directive _ :: _ => malformed
    | _ => root handles rest
  | _ => malformed

end NodeReader

/-- The root node of the only document of a text; an empty text has none. -/
def Node.ofTokens? (ts : List Token) : Except Fault (Option Node) :=
  match ts with
  | [] => .ok none
  | .directive _ :: _ => (NodeReader.markedRoot ts).map some
  | .documentStart :: _ => (NodeReader.markedRoot ts).map some
  | _ => (NodeReader.root defaultHandles ts).map some

end Stencil.Yaml
