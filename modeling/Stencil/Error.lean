import Stencil.Json.Fault
import Stencil.Tag
import Stencil.Value.Literal

/-!
# Errors

Everything that a caller may be told about an expression, a schema, a query, a batch or a settings
file that cannot be used. An error is a cause; its message is a function of the cause.
-/

namespace Stencil

/-- What keeps an expression from being split into tokens. -/
inductive SyntaxProblem where
  /-- A quoted argument does not end with its quote. -/
  | unterminatedArgument
  /-- Something follows the bracket that closes a call. -/
  | textAfterCall
  /-- A bracket closes nothing. -/
  | unexpected (bracket : Char)
  /-- A quote is never closed. -/
  | unterminated
  /-- A bracket is never closed. -/
  | missingParenthesis
  /-- Brackets of an argument list are never closed. -/
  | unbalanced
  deriving DecidableEq, Repr

/-- What keeps a schema from being evaluated. -/
inductive SchemaProblem where
  /-- A node is neither an expression nor an object nor a list. -/
  | unsupportedNode (kind : String)
  /-- An element of a list is not an object. -/
  | elementKind (kind : String)
  /-- An element of a list does not say what it iterates over. -/
  | missingPath
  /-- An expression lacks its tag or its body. -/
  | expression (text : String)
  /-- The evaluation is nested deeper than the limit. -/
  | tooDeep (limit : Int)
  /-- A header schema built something else than an object. -/
  | headersKind (kind : String)
  deriving DecidableEq, Repr

/-- What is wrong with a settings, template or request file. -/
inductive ConfigProblem where
  /-- The file is not JSON. -/
  | json (fault : Json.Fault)
  /-- The file is not YAML. -/
  | yaml
  /-- The settings are no mapping. -/
  | settingsShape
  /-- The default headers are no mapping. -/
  | defaultHeaders
  /-- The base address is no text. -/
  | baseUrl
  /-- A numeric setting holds something else. -/
  | setting (name : String) (value : Value)
  /-- The template is no mapping. -/
  | templateShape
  /-- The requests are no list. -/
  | requestsShape
  /-- The request with this number is no mapping. -/
  | requestShape (number : Nat)
  /-- The request with this number lacks its address. -/
  | requestUrl (number : Nat)
  /-- The request with this number has fields that no request has. -/
  | requestFields (number : Nat) (names : List String)
  /-- The response is no mapping. -/
  | responseShape
  /-- The response has fields that no response has. -/
  | responseFields (names : List String)
  /-- The opening request is no mapping. -/
  | openingShape
  /-- The headers of the opening request are no mapping. -/
  | openingHeaders
  deriving Repr

/-- An error that a caller is told about. -/
inductive Error where
  /-- An expression cannot be split into tokens. -/
  | expression (problem : SyntaxProblem) (text : String)
  /-- A schema cannot be evaluated. -/
  | schema (problem : SchemaProblem)
  /-- No type has the word at the head of an expression. -/
  | unknownTag (word : String)
  /-- No function has the name. -/
  | unknownFunction (name : String) (available : List String)
  /-- A function does not produce the requested type. -/
  | unsupportedType (function : String) (tag : Tag)
  /-- A function is given too few arguments. -/
  | tooFewArguments (function : String) (needed : Int) (given : Nat)
  /-- A value cannot be turned into the requested type. -/
  | cast (value : Value) (target : Tag)
  /-- A literal is not JSON. -/
  | literal (text : String) (fault : Json.Fault)
  /-- A path query is malformed. -/
  | query (path : String)
  /-- A request got no response. -/
  | dispatch (method url reason : String)
  /-- A file or the data in it has the wrong shape. -/
  | config (problem : ConfigProblem) (source : Option String)
  deriving Repr

namespace Wording

/-- A number in a message. -/
def number (n : Int) : String := String.ofList (Number.intText n)

/-- A problem with an expression, which is quoted if it is known. -/
def expression (problem : String) (text : Option String) : String :=
  match text with
  | none => problem
  | some text => problem ++ ": " ++ Text.quote text

/-- An unknown tag. -/
def unknownTag (word : String) : String := "Unsupported type: " ++ word

/-- Names joined by commas. -/
def names (ns : List String) : String := ", ".intercalate ns

/-- An unknown function, with the names of the known ones if there are any. -/
def unknownFunction (name : String) (available : List String) : String :=
  "Unsupported function: " ++ name ++
    (if available.isEmpty then "" else ". Available: " ++ names available)

/-- A function and a type that it does not produce. -/
def unsupportedType (function label : String) : String :=
  "Function '" ++ function ++ "' does not support type '" ++ label ++ "'"

/-- A value and the type that it cannot be turned into. -/
def cast (value : Value) (label : String) : String :=
  "Cannot cast " ++ value.kind ++ " " ++ value.literal ++ " to " ++ label

/-- A malformed path, without the reason. -/
def query (path : String) : String := "Invalid JSONPath " ++ Text.quote path

/-- A request that got no response. -/
def dispatch (method url reason : String) : String :=
  method ++ " " ++ url ++ " failed: " ++ reason

/-- A problem with a file or other source, which is named first if it has a name. -/
def config (problem : String) (source : Option String) : String :=
  match source with
  | none => problem
  | some source => if source.isEmpty then problem else source ++ ": " ++ problem

end Wording

/-- The wording of a problem with an expression. -/
def SyntaxProblem.wording : SyntaxProblem → String
  | .unterminatedArgument => "Unterminated string argument"
  | .textAfterCall => "Unexpected text after function call"
  | .unexpected bracket => "Unexpected '" ++ String.ofList [bracket] ++ "'"
  | .unterminated => "Unterminated string"
  | .missingParenthesis => "Missing closing parenthesis"
  | .unbalanced => "Unbalanced brackets"

/-- The wording of a problem with a schema. -/
def SchemaProblem.wording : SchemaProblem → String
  | .unsupportedNode kind => "Unsupported schema node: " ++ kind
  | .elementKind kind => "Array element schema must be an object, got " ++ kind
  | .missingPath => "Missing '__array_path' in array element schema"
  | .expression text => "Invalid schema: " ++ Text.quote text
  | .tooDeep limit => "Schema nesting exceeds maximum depth of " ++ Wording.number limit
  | .headersKind kind => "Headers schema must build an object, got " ++ kind

/-- The wording of a problem with a file. -/
def ConfigProblem.wording : ConfigProblem → String
  | .json fault => "Invalid JSON: " ++ fault.message
  | .yaml => "Invalid YAML:"
  | .settingsShape => "Config file must contain a mapping"
  | .defaultHeaders => "'default_headers' must be a mapping"
  | .baseUrl => "'base_url' must be a string"
  | .setting name value => "'" ++ name ++ "' must be a number, got " ++ value.literal
  | .templateShape => "Batch template must be a mapping"
  | .requestsShape => "'requests' must be a list"
  | .requestShape number => "Request " ++ Wording.number number ++ " must be a mapping"
  | .requestUrl number => "Request " ++ Wording.number number ++ " requires a 'url' string"
  | .requestFields number names =>
    "Request " ++ Wording.number number ++ " has unknown fields: " ++ Wording.names names
  | .responseShape => "'response' must be a mapping"
  | .responseFields names => "Response has unknown fields: " ++ Wording.names names
  | .openingShape => "Request must be a mapping"
  | .openingHeaders => "Request 'headers' must be a mapping"

/-- The message of an error. -/
def Error.message : Error → String
  | .expression problem text => Wording.expression problem.wording (some text)
  | .schema problem => problem.wording
  | .unknownTag word => Wording.unknownTag word
  | .unknownFunction name available => Wording.unknownFunction name available
  | .unsupportedType function tag => Wording.unsupportedType function tag.label
  | .tooFewArguments function needed given =>
    "Function '" ++ function ++ "' expects at least " ++ Wording.number needed ++
      " argument(s), got " ++ Wording.number given
  | .cast value target => Wording.cast value target.label
  | .literal text fault => "Invalid JSON literal " ++ Text.quote text ++ ": " ++ fault.message
  | .query path => Wording.query path
  | .dispatch method url reason => Wording.dispatch method url reason
  | .config problem source => Wording.config problem.wording source

end Stencil
