import Switchboard.Config.Server
import Switchboard.Environment
import Switchboard.Prompt.Document

/-!
From the settings of a prompt to the agent that answers it: which model at which address, with which
key, told what, and asked in which manner.

Each part is looked for at the prompt, then in the environment or in the settings of the server. The
settings in front of the text of a prompt file replace those of the prompt, and are taken as they are
written.
-/
namespace Switchboard.Prompt

/-- The fields of the model that a prompt chooses. -/
structure Choice where
  provider : Value
  address : Value
  key : Value
  keyVariable : Value
  name : Value
  temperature : Value
  maxTokens : Value

namespace Choice

/-- The choice of a model's settings. -/
def ofModel (m : Config.Model) : Choice :=
  { provider := .str m.provider
    address := Config.optionalText m.baseUrl
    key := Config.optionalText m.apiKey
    keyVariable := .str m.apiKeyVariable
    name := Config.optionalText m.name
    temperature := match m.temperature with | some x => .float x | none => .null
    maxTokens := match m.maxTokens with | some n => .int n | none => .null }

/-- A choice with the members that name its fields in their places; other members do not count. -/
def override (c : Choice) (settings : List (Key × Value)) : Choice :=
  let field (name : String) (v : Value) : Value := (Members.get? (.text name) settings).getD v
  { provider := field "provider" c.provider
    address := field "base_url" c.address
    key := field "api_key" c.key
    keyVariable := field "api_key_env" c.keyVariable
    name := field "model_name" c.name
    temperature := field "temperature" c.temperature
    maxTokens := field "max_tokens" c.maxTokens }

/-- A choice as data, under the names that settings use. -/
def toValue (c : Choice) : Value :=
  .ofFields [("provider", c.provider), ("base_url", c.address), ("api_key", c.key),
    ("api_key_env", c.keyVariable), ("model_name", c.name), ("temperature", c.temperature),
    ("max_tokens", c.maxTokens)]

end Choice

/-- The first value that counts as set, or else the last one. -/
def firstSet (v : Value) : List Value → Value
  | [] => v
  | next :: rest => if v.isSet then v else firstSet next rest

/-- Where models are when nothing else is said. -/
def usualAddress : String := "https://api.openai.com/v1"

/-- The model when nothing else is said. -/
def usualModel : String := "gpt-4o-mini"

/-- The key for servers that need none. -/
def noKey : String := "noop"

/-- The provider that can be told to answer in JSON. -/
def jsonProvider : String := "openai-compatible"

/-- How a model is asked. -/
def mannerFor (c : Choice) (address : Value) (wantsJson : Bool) : List (Key × Value) :=
  let given (name : String) (v : Value) : List (Key × Value) :=
    match v with
    | .null => []
    | v => [(.text name, v)]
  let asksForJson := wantsJson && (match c.provider with | .str s => s == jsonProvider | _ => false)
  let isUsual := match address with
    | .null => true
    | .str s => s == usualAddress
    | _ => false
  let body := if isUsual then
      Value.ofFields [("response_format", .ofFields [("type", .str "json_object")])]
    else .ofFields [("format", .str "json")]
  given "temperature" c.temperature ++ given "max_tokens" c.maxTokens
    ++ if asksForJson then [(.text "extra_body", body)] else []

/-- A model that is ready to be asked. -/
structure Agent where
  model : Value
  address : Value
  key : Value
  instructions : String
  systemPrompt : String
  manner : List (Key × Value)

/-- Why a prompt has no agent. -/
inductive AgentError where
  | denied (e : Files.Denial)
  | document (e : DocumentError)
  | variableKind (kind : String)
  | noKey (variableName : String)

/-- The message for it. -/
def AgentError.message : AgentError → String
  | .denied e => e.message
  | .document e => e.message
  | .variableKind kind => "str expected, not " ++ kind
  | .noKey variableName =>
    variableName ++ " is required for ai_prompt endpoints unless a baseUrl (base_url or "
      ++ "default_base_url) points at a local model server."

/-- The choice of a prompt and its text. -/
def resolve (disk : Files.Disk) (boundary : Files.Boundary) (p : Config.Prompt) :
    Except AgentError (Choice × String) := do
  let choice := Choice.ofModel p.model
  match p.file with
  | none => return (choice, p.prompt.getD "")
  | some file =>
    if file.isEmpty then return (choice, p.prompt.getD "")
    let path ← (boundary.resolve file).mapError .denied
    let document ← (Document.load disk path).mapError .document
    return (choice.override document.settings, document.text)

/-- The key for a choice: its own, that of the variable it names, or that of the server. -/
def keyFor (environment : Environment) (server : Config.Server) (c : Choice) :
    Except AgentError Value :=
  if c.key.isSet then .ok c.key
  else
    match c.keyVariable with
    | .str name =>
      .ok (firstSet (Config.optionalText (environment.get? name))
        [Config.optionalText server.defaultApiKey])
    | v => .error (.variableKind v.kindName)

/-- The address for a choice: its own, or that of the server. -/
def addressFor (server : Config.Server) (c : Choice) : Value :=
  firstSet c.address [Config.optionalText server.defaultBaseUrl]

/-- The agent for a choice and a text. -/
def Agent.ofChoice (environment : Environment) (server : Config.Server) (p : Config.Prompt)
    (wantsJson : Bool) (c : Choice) (text : String) : Except AgentError Agent := do
  let key ← keyFor environment server c
  let address := addressFor server c
  if !key.isSet && !address.isSet then throw (.noKey c.keyVariable.plain)
  return {
    model := firstSet c.name [Config.optionalText server.defaultModel, .str usualModel]
    address := firstSet address [.str usualAddress]
    key := firstSet key [.str noKey]
    instructions := text
    systemPrompt := p.systemPrompt
    manner := mannerFor c address wantsJson }

/-- The agent for a prompt. -/
def Agent.make (disk : Files.Disk) (environment : Environment) (boundary : Files.Boundary)
    (server : Config.Server) (p : Config.Prompt) (wantsJson : Bool) : Except AgentError Agent := do
  let (choice, text) ← resolve disk boundary p
  Agent.ofChoice environment server p wantsJson choice text

end Switchboard.Prompt
