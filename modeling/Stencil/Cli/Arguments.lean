import Stencil.Number.Written
import Stencil.Text.Digit

/-!
# Command lines

A command line holds options and operands. An option starts with a hyphen and may be shortened to
any start that no other option has; its value follows it, or is attached to it. What looks like a
negative number, holds a space or follows two hyphens is an operand. Two hyphens belong to an operand
beside them. The first operand is the command; what follows it belongs to the command.
-/

namespace Stencil.Cli

/-- An option. -/
structure Flag where
  /-- The short form, a hyphen and a letter. -/
  short : Option (List Char)
  /-- The long form. -/
  long : List Char
  /-- Whether a value belongs to the option. -/
  takesValue : Bool
  deriving DecidableEq, Repr

/-- What an argument is. -/
inductive Role where
  /-- An operand. -/
  | operand
  /-- An option with the value attached to it, if there is one. -/
  | flag (f : Flag) (attached : Option (List Char))
  /-- A short option with letters directly after it. -/
  | joined (f : Flag) (letters : List Char)
  /-- An option that is not known. -/
  | unknown
  /-- The start of several options. -/
  | ambiguous
  deriving DecidableEq, Repr

/-- How the reading of a command line may end early. -/
inductive Ending where
  /-- Help was asked for. -/
  | help
  /-- The command line cannot be used. -/
  | misuse
  deriving DecidableEq, Repr

/-- The option that asks for help. -/
def helpFlag : Flag := ⟨some "-h".toList, "--help".toList, false⟩

/-- A decimal digit of any script. -/
def isDigit (c : Char) : Bool := (Text.digitValue? c).isSome

/-- Whether a text is a negative number. A line feed may end it. -/
def isNegative (cs : List Char) : Bool :=
  match cs with
  | '-' :: rest =>
    let whole := rest.takeWhile isDigit
    match rest.drop whole.length with
    | [] => !whole.isEmpty
    | ['\n'] => !whole.isEmpty
    | '.' :: fraction =>
      !(fraction.takeWhile isDigit).isEmpty && ["".toList, ['\n']].contains (fraction.dropWhile isDigit)
    | _ => false
  | _ => false

/-- The text before the first equals sign, and the text after it if there is one. -/
def splitValue (cs : List Char) : List Char × Option (List Char) :=
  match cs.dropWhile (· ≠ '=') with
  | [] => (cs, none)
  | _ :: value => (cs.takeWhile (· ≠ '='), some value)

/-- Whether an option has a form. -/
def Flag.hasForm (f : Flag) (form : List Char) : Bool := f.short = some form || f.long = form

/-- The options that an argument may mean when it is no form of an option. -/
def candidates (flags : List Flag) (cs : List Char) : List Role :=
  match cs with
  | '-' :: '-' :: _ =>
    let (form, value) := splitValue cs
    (flags.filter fun f => form.isPrefixOf f.long).map fun f => .flag f value
  | '-' :: c :: rest =>
    (flags.filter fun f => f.short = some ['-', c]).map fun f => .joined f rest
  | _ => []

/-- What an argument is. -/
def role (flags : List Flag) (cs : List Char) : Role :=
  if cs.head? ≠ some '-' || cs.length = 1 then .operand
  else
    match flags.find? fun f => f.hasForm cs with
    | some f => .flag f none
    | none =>
      let (form, value) := splitValue cs
      match value, flags.find? fun f => f.hasForm form with
      | some value, some f => .flag f (some value)
      | _, _ =>
        match candidates flags cs with
        | [one] => one
        | _ :: _ :: _ => .ambiguous
        | [] => if isNegative cs || cs.contains ' ' then .operand else .unknown

/-- What ends the options: what follows are operands. -/
def divider : List Char := ['-', '-']

/-- What has been read of a command line. -/
structure Reading where
  /-- The options with their values, in order. -/
  options : List (List Char × List Char) := []
  /-- The operands, in order. A divider in the place of an operand is none. -/
  operands : List (Option (List Char)) := []
  /-- Whether an argument was not known or is one too many. -/
  hasUnknown : Bool := false
  /-- What follows the first operand, if reading stops there. -/
  rest : List (List Char) := []
  /-- How reading ended, if it ended early. -/
  ending : Option Ending := none
  deriving Repr

namespace Reading

/-- The value that an option was last given. -/
def value? (r : Reading) (f : Flag) : Option (List Char) := r.options.reverse.lookup f.long

/-- A reading with one more option. -/
def addOption (r : Reading) (f : Flag) (value : List Char) : Reading :=
  { r with options := r.options ++ [(f.long, value)] }

/-- A reading with one more operand. -/
def addOperand (r : Reading) (cs : List Char) : Reading :=
  { r with operands := r.operands ++ [some cs] }

/-- A reading with the operands that follow a divider, for which there is some room. -/
def addLast (r : Reading) (room : Nat) (args : List (List Char)) : Reading :=
  let found := (args.take room).map fun cs => if cs = divider then none else some cs
  { r with operands := r.operands ++ found, hasUnknown := r.hasUnknown || room < args.length }

end Reading

/-- Whether the next argument may be the value of an option. -/
def isValueNext (flags : List Flag) : List (List Char) → Bool
  | [] => false
  | cs :: _ => cs ≠ divider && role flags cs = .operand

/-- Whether letters can stand after a short option without a value: further short options, of which
one that takes a value takes the letters after it or the next argument. A letter that is no option
ends them. -/
def fits (flags : List Flag) (rest : List (List Char)) : List Char → Bool
  | [] => true
  | c :: more =>
    if c = '-' || c = '=' then false
    else
      match flags.find? fun f => f.short = some ['-', c] with
      | none => true
      | some f =>
        if !f.takesValue then fits flags rest more
        else !more.isEmpty || isValueNext flags rest

mutual

/-- Reads arguments. Without `room` the first operand ends the reading, else there is room for as many
operands. `beside` tells whether the argument before is an operand. -/
def readArguments (flags : List Flag) (room : Option Nat) (beside : Bool) :
    List (List Char) → Reading → Reading
  | [], r => r
  | cs :: rest, r =>
    if cs = divider then
      match room, beside, rest with
      | none, _, _ => { r with ending := some .misuse }
      | some room, true, _ => r.addLast room rest
      | some (room + 1), false, next :: rest => (r.addOperand next).addLast room rest
      | some _, false, _ => { r with hasUnknown := true }
    else
      match role flags cs with
      | .operand =>
        match room with
        | none => { r with operands := [some cs], rest }
        | some 0 => readArguments flags (some 0) false rest { r with hasUnknown := true }
        | some (room + 1) => readArguments flags (some room) true rest (r.addOperand cs)
      | .unknown => readArguments flags room false rest { r with hasUnknown := true }
      | .ambiguous => { r with ending := some .misuse }
      | .joined f letters =>
        if f.takesValue then
          readArguments flags room false rest (r.addOption f letters)
        else if !fits flags rest letters then { r with ending := some .misuse }
        else if f = helpFlag then { r with ending := some .help }
        else readArguments flags room false rest r
      | .flag f (some value) =>
        if f.takesValue then readArguments flags room false rest (r.addOption f value)
        else { r with ending := some .misuse }
      | .flag f none =>
        if f.takesValue then readValue flags room f rest r
        else if f = helpFlag then { r with ending := some .help }
        else readArguments flags room false rest r

/-- Reads the value of an option, and the arguments after it. -/
def readValue (flags : List Flag) (room : Option Nat) (f : Flag) :
    List (List Char) → Reading → Reading
  | [], r => { r with ending := some .misuse }
  | value :: rest, r =>
    if isValueNext flags [value] then readArguments flags room false rest (r.addOption f value)
    else { r with ending := some .misuse }

end

/-- Whether an argument before a divider is the start of several options. -/
def hasAmbiguous (flags : List Flag) (args : List (List Char)) : Bool :=
  (args.takeWhile (· ≠ divider)).any fun cs => role flags cs = .ambiguous

/-- Reads arguments, unless one of them is the start of several options. -/
def readAll (flags : List Flag) (room : Option Nat) (args : List (List Char)) : Reading :=
  if hasAmbiguous flags args then { ending := some .misuse }
  else readArguments flags room false args {}

/-- The option for more output. -/
def verboseFlag : Flag := ⟨none, "--verbose".toList, false⟩

/-- The option for a settings file. -/
def configFlag : Flag := ⟨some "-c".toList, "--config".toList, true⟩

/-- The option for a file with the opening request. -/
def requestFlag : Flag := ⟨some "-r".toList, "--request".toList, true⟩

/-- The option for a port. -/
def portFlag : Flag := ⟨some "-p".toList, "--port".toList, true⟩

/-- The option for the interface to listen on. -/
def hostFlag : Flag := ⟨none, "--host".toList, true⟩

/-- What is to be done. -/
inductive Command where
  /-- Builds a schema for a document. A divider in its place is no document. -/
  | build (schema : String) (document : Option String)
  /-- Runs a batch template, with an opening request if there is one. -/
  | run (template : String) (request : Option String)
  /-- Serves batches. -/
  | serve (port : Int) (host : String)
  deriving DecidableEq, Repr

/-- A command with the settings file that applies, if there is one. -/
structure Invocation where
  /-- The settings file. -/
  config : Option String
  /-- The command. -/
  command : Command
  deriving DecidableEq, Repr

/-- The port that is listened on if none is given. -/
def defaultPort : Int := 7431

/-- The interface that is listened on if none is given. -/
def defaultHost : String := "127.0.0.1"

/-- The text of a value, none if it is empty. -/
def given? (value : Option (List Char)) : Option String :=
  (value.filter fun cs => !cs.isEmpty).map String.ofList

/-- A command from the arguments after its name. Ports are checked as they are read. -/
def commandOf (name : List Char) (args : List (List Char)) : Except Ending Command := do
  let (flags, room) ← match String.ofList name with
    | "build" => .ok ([helpFlag], 2)
    | "run" => .ok ([helpFlag, requestFlag], 1)
    | "serve" => .ok ([helpFlag, portFlag, hostFlag], 0)
    | _ => .error .misuse
  let r := readAll flags (some room) args
  let ports := r.options.filterMap fun option =>
    if option.1 = portFlag.long then some (Number.readInteger? option.2) else none
  if ports.any Option.isNone then .error .misuse
  else
    match r.ending with
    | some ending => .error ending
    | none =>
      if r.hasUnknown then .error .misuse
      else
        match String.ofList name, r.operands with
        | "build", [some schema, document] =>
          .ok (.build (String.ofList schema) (document.map String.ofList))
        | "run", [some template] =>
          .ok (.run (String.ofList template) (given? (r.value? requestFlag)))
        | "serve", [] =>
          .ok (.serve (((ports.getLast?).join).getD defaultPort)
            (((r.value? hostFlag).map String.ofList).getD defaultHost))
        | _, _ => .error .misuse

/-- The invocation that a command line asks for. -/
def Invocation.ofArguments (args : List String) : Except Ending Invocation := do
  let r := readAll [helpFlag, verboseFlag, configFlag] none (args.map String.toList)
  match r.ending, r.operands with
  | some ending, _ => .error ending
  | none, some name :: _ =>
    let command ← commandOf name r.rest
    if r.hasUnknown then .error .misuse
    else .ok { config := given? (r.value? configFlag), command }
  | none, _ => .error .misuse

end Stencil.Cli
