import Switchboard.Config.Field

/-!
Endpoints as settings declare them: a name, a route, schemas for what goes in and what comes out, and
a handler, which is a prompt to a model, a function, a shell tool or a chain of other endpoints.

`Endpoint.read` accepts a document or reports everything that is wrong with it; `Endpoint.toValue`
writes all fields back, those with default values too.
-/
namespace Switchboard.Config

open Checked

/-- Which model to ask, and how. -/
structure Model where
  provider : String
  baseUrl : Option String
  apiKey : Option String
  apiKeyVariable : String
  name : Option String
  temperature : Option Float
  maxTokens : Option Int

/-- A text or nothing as data. -/
def optionalText : Option String → Value
  | some s => .str s
  | none => .null

namespace Model

/-- The model of settings that say nothing. -/
def default : Model := ⟨"openai-compatible", none, none, "OPENAI_API_KEY", none, none, none⟩

/-- The fields of a model. -/
def fieldNames : List String :=
  ["provider", "base_url", "api_key", "api_key_env", "model_name", "temperature", "max_tokens"]

/-- Reads a model. -/
def read : Value → Checked Model :=
  readRecord fieldNames fun fields =>
    Model.mk <$> fields.optional "provider" default.provider readText
      <*> fields.optional "base_url" none readOptionalText
      <*> fields.optional "api_key" none readOptionalText
      <*> fields.optional "api_key_env" default.apiKeyVariable readText
      <*> fields.optional "model_name" none readOptionalText
      <*> fields.optional "temperature" none readOptionalNumber
      <*> fields.optional "max_tokens" none readOptionalInteger

/-- A model as data. -/
def toValue (m : Model) : Value :=
  .ofFields [("provider", .str m.provider), ("base_url", optionalText m.baseUrl),
    ("api_key", optionalText m.apiKey), ("api_key_env", .str m.apiKeyVariable),
    ("model_name", optionalText m.name),
    ("temperature", match m.temperature with | some x => .float x | none => .null),
    ("max_tokens", match m.maxTokens with | some n => .int n | none => .null)]

end Model

/-- The kind that a record names, when it names one, must be its own. -/
def readKind (kind : String) (fields : Fields) : Checked Unit :=
  fields.optional "kind" () fun v =>
    match v with
    | .str s => if s = kind then .valid () else fault .wrongKind
    | _ => fault .wrongKind

/-- Whether an optional text is there and not empty. -/
def isGiven : Option String → Bool
  | some s => !s.isEmpty
  | none => false

/-- A prompt to a model, given directly or in a file. -/
structure Prompt where
  prompt : Option String
  file : Option String
  systemPrompt : String
  model : Model

namespace Prompt

/-- Reads a prompt; exactly one of text and file is given. -/
def read (v : Value) : Checked Prompt :=
  (readRecord ["kind", "prompt", "prompt_file", "system_prompt", "model"] (fun fields =>
    (fun _ => Prompt.mk) <$> readKind "ai_prompt" fields
      <*> fields.optional "prompt" none readOptionalText
      <*> fields.optional "prompt_file" none readOptionalText
      <*> fields.optional "system_prompt" "" readText
      <*> fields.optional "model" Model.default Model.read) v).andThen fun p =>
  require (if isGiven p.prompt == isGiven p.file then some .onePromptSource else none) p

/-- A prompt as data. -/
def toValue (p : Prompt) : Value :=
  .ofFields [("kind", .str "ai_prompt"), ("prompt", optionalText p.prompt),
    ("prompt_file", optionalText p.file), ("system_prompt", .str p.systemPrompt),
    ("model", p.model.toValue)]

end Prompt

/-- A function of an installed module or of a file. -/
structure Function where
  module : Option String
  file : Option String
  name : String

namespace Function

/-- Reads a function; exactly one of module and file is given. -/
def read (v : Value) : Checked Function :=
  (readRecord ["kind", "module", "file", "function"] (fun fields =>
    (fun _ => Function.mk) <$> readKind "python" fields
      <*> fields.optional "module" none readOptionalText
      <*> fields.optional "file" none readOptionalText
      <*> fields.optional "function" "handler" readText) v).andThen fun f =>
  require (if isGiven f.module == isGiven f.file then some .oneFunctionSource else none) f

/-- A function as data. -/
def toValue (f : Function) : Value :=
  .ofFields [("kind", .str "python"), ("module", optionalText f.module), ("file", optionalText f.file),
    ("function", .str f.name)]

end Function

/-- A command that answers a query, with the query as its last argument. -/
structure Tool where
  query : String
  command : String
  args : List String
  timeout : Float

namespace Tool

/-- Reads a tool. -/
def read : Value → Checked Tool :=
  readRecord ["kind", "query", "command", "args", "timeout_seconds"] fun fields =>
    (fun _ => Tool.mk) <$> readKind "shell_query" fields
      <*> fields.required "query" readText
      <*> fields.optional "command" "workiq" readText
      <*> fields.optional "args" ["ask", "-q"] (readList readText)
      <*> fields.optional "timeout_seconds" 120.0 readNumber

/-- A tool as data. -/
def toValue (t : Tool) : Value :=
  .ofFields [("kind", .str "shell_query"), ("query", .str t.query), ("command", .str t.command),
    ("args", .list (t.args.map .str)), ("timeout_seconds", .float t.timeout)]

end Tool

/-- A step of a chain: the endpoint to call and the template for its input. -/
structure Step where
  name : Option String
  endpoint : String
  input : Value

namespace Step

/-- Reads a step. -/
def read : Value → Checked Step :=
  readRecord ["name", "endpoint", "input"] fun fields =>
    Step.mk <$> fields.optional "name" none readOptionalText
      <*> fields.required "endpoint" readText
      <*> fields.optional "input" (.object []) .valid

/-- A step as data. -/
def toValue (s : Step) : Value :=
  .ofFields [("name", optionalText s.name), ("endpoint", .str s.endpoint), ("input", s.input)]

end Step

/-- Steps that are taken one after the other, and a template for the result; without one the last
output is the result. -/
structure Chain where
  steps : List Step
  output : Value

namespace Chain

/-- The first step name, in the order of the steps, that repeats an earlier one. -/
def repeatedName (seen : List String) : List Step → Option String
  | [] => none
  | step :: rest =>
    match step.name with
    | none => repeatedName seen rest
    | some name => if name ∈ seen then some name else repeatedName (name :: seen) rest

/-- Reads the steps: at least one, and no name twice. -/
def readSteps (v : Value) : Checked (List Step) :=
  (readList Step.read v).andThen fun steps =>
    if steps.isEmpty then fault .emptyList
    else require ((repeatedName [] steps).map .oneStepOfName) steps

/-- Reads a chain. -/
def read : Value → Checked Chain :=
  readRecord ["kind", "steps", "output"] fun fields =>
    (fun _ => Chain.mk) <$> readKind "chain" fields
      <*> fields.required "steps" readSteps
      <*> fields.optional "output" .null .valid

/-- A chain as data. -/
def toValue (c : Chain) : Value :=
  .ofFields [("kind", .str "chain"), ("steps", .list (c.steps.map Step.toValue)), ("output", c.output)]

end Chain

/-- What answers the requests of an endpoint. -/
inductive Handler where
  | prompt (p : Prompt)
  | function (f : Function)
  | tool (t : Tool)
  | chain (c : Chain)

namespace Handler

/-- The word for the kind of a handler. -/
def kind : Handler → String
  | .prompt _ => "ai_prompt"
  | .function _ => "python"
  | .tool _ => "shell_query"
  | .chain _ => "chain"

/-- Reads a handler of a given kind, if there is such a kind. -/
def readAs (kind : String) (v : Value) : Checked Handler :=
  let record : Option (Checked Handler) := match kind with
    | "ai_prompt" => some (Handler.prompt <$> Prompt.read v)
    | "python" => some (Handler.function <$> Function.read v)
    | "shell_query" => some (Handler.tool <$> Tool.read v)
    | "chain" => some (Handler.chain <$> Chain.read v)
    | _ => none
  match record with
  | some record => record.under (.name kind)
  | none => fault .unknownKind

/-- Reads a handler, whose kind the document names. -/
def read (v : Value) : Checked Handler :=
  match v with
  | .object members =>
    match Members.get? (.text "kind") members with
    | some (.str kind) => readAs kind v
    | some _ => fault .unknownKind
    | none => fault .noKind
  | _ => fault .notHandler

/-- A handler as data. -/
def toValue : Handler → Value
  | .prompt p => p.toValue
  | .function f => f.toValue
  | .tool t => t.toValue
  | .chain c => c.toValue

end Handler

/-- The request methods that an endpoint can have. -/
inductive Method where
  | get
  | post
  | put
  | patch
  | delete
  deriving DecidableEq

namespace Method

/-- The word for a method. -/
def word : Method → String
  | .get => "GET"
  | .post => "POST"
  | .put => "PUT"
  | .patch => "PATCH"
  | .delete => "DELETE"

/-- All methods. -/
def all : List Method := [.get, .post, .put, .patch, .delete]

/-- A character in capitals: ASCII letters, and the few other characters whose capitals are ASCII
letters. Any other character stays, since no method has one. -/
def capital (c : Char) : List Char :=
  match c with
  | 'ı' => ['I']
  | 'ſ' => ['S']
  | 'ß' => ['S', 'S']
  | 'ﬀ' => ['F', 'F']
  | 'ﬁ' => ['F', 'I']
  | 'ﬂ' => ['F', 'L']
  | 'ﬃ' => ['F', 'F', 'I']
  | 'ﬄ' => ['F', 'F', 'L']
  | 'ﬅ' => ['S', 'T']
  | 'ﬆ' => ['S', 'T']
  | c => [c.toUpper]

/-- The method that a text names, in any case and with blanks around it. -/
def ofText? (s : String) : Option Method :=
  let word := String.ofList ((Text.strip s.toList).flatMap capital)
  all.find? fun m => m.word == word

/-- Reads a method. -/
def read (v : Value) : Checked Method :=
  (readText v).andThen fun s =>
    match ofText? s with
    | some m => .valid m
    | none => fault (.broken (.knownMethod s))

end Method

/-- A declared endpoint. -/
structure Endpoint where
  name : String
  description : String
  path : String
  method : Method
  inputSchema : Option Value
  outputSchema : Option Value
  handler : Handler

namespace Endpoint

/-- Whether an endpoint is a chain of others. -/
def isChain (e : Endpoint) : Bool :=
  match e.handler with
  | .chain _ => true
  | _ => false

/-- The path of an endpoint: the one given, with a slash in front, or else its name behind a slash. -/
def pathOf (given : Option String) (name : String) : String :=
  match given with
  | some path =>
    if path.isEmpty then "/" ++ name else if path.startsWith "/" then path else "/" ++ path
  | none => "/" ++ name

/-- A text that is not empty. -/
def readName (v : Value) : Checked String :=
  (readText v).andThen fun s => if s.isEmpty then fault .emptyText else .valid s

/-- The keys under which a document names its handler, each with the kind it stands for. -/
def shorthands : List (String × String) :=
  handlerKeys.zip ["ai_prompt", "python", "shell_query", "chain"]

/-- The keys of a document that name a handler. -/
def presentHandlers (fields : Fields) : List String :=
  (handlerKeys ++ ["handler"]).filter fun key => Members.contains (.text key) fields

/-- A document with its one handler under `handler`: a handler under a short key is of the kind that
the key stands for, whatever kind it names itself. -/
def unfold (fields : Fields) : Checked Fields :=
  match presentHandlers fields with
  | [key] =>
    match shorthands.lookup key with
    | none => .valid fields
    | some kind =>
      let body := match Members.get? (.text key) fields with
        | some (.object members) => .object (Members.insert (.text "kind") (.str kind) members)
        | some v => v
        | none => .null
      .valid (Members.insert (.text "handler") body (fields.filter fun (k, _) => k != .text key))
  | present =>
    let name := (Members.get? (.text "name") fields).getD (.str "<unnamed>")
    fault (.broken (.oneHandler name present))

/-- Reads an endpoint from its fields. -/
def readFields (fields : Fields) : Checked Endpoint :=
  let fold (name description : String) (path : Option String) (method : Method)
      (input output : Option Value) (handler : Handler) : Endpoint :=
    ⟨name, description, pathOf path name, method, input, output, handler⟩
  fold <$> fields.required "name" readName
    <*> fields.optional "description" "" readText
    <*> fields.optional "path" none readOptionalText
    <*> fields.optional "method" .post Method.read
    <*> fields.optional "input_schema" none readMapping
    <*> fields.optional "output_schema" none readMapping
    <*> fields.required "handler" Handler.read

/-- Reads an endpoint. -/
def read : Value → Checked Endpoint
  | .object fields =>
    (unfold fields).andThen fun fields =>
      fields.closed
        ["name", "description", "path", "method", "input_schema", "output_schema", "handler"]
        (readFields fields)
  | _ => fault .notRecord

/-- An endpoint as data. -/
def toValue (e : Endpoint) : Value :=
  .ofFields [("name", .str e.name), ("description", .str e.description), ("path", .str e.path),
    ("method", .str e.method.word), ("input_schema", e.inputSchema.getD .null),
    ("output_schema", e.outputSchema.getD .null), ("handler", e.handler.toValue)]

end Endpoint

end Switchboard.Config
