import Switchboard.Config.Graph
import Switchboard.Handlers.Leaf
import Switchboard.Log
import Switchboard.Site

/-!
From the settings of endpoints to the registry of what can be called: everything that settings refer
to is looked up once, before any request.

Endpoints that are no chains come first, then the chains, each in the order of the settings.
-/
namespace Switchboard

/-- Why an endpoint cannot be put into service. -/
inductive BuildError where
  | agent (e : Prompt.AgentError)
  | function (endpoint : String) (e : Functions.LoadError)
  | notFunction (endpoint : String)
  | noCommand (endpoint command : String)
  | inputSchema (endpoint : String)
  | outputSchema (endpoint : String)
  | checking (why : Schema.Interruption)

/-- The message for it. -/
def BuildError.message : BuildError → String
  | .agent e => e.message
  | .function endpoint e =>
    "Failed to load Python handler for endpoint " ++ Text.quoted endpoint ++ ": " ++ e.message
  | .notFunction endpoint =>
    "Python handler for endpoint " ++ Text.quoted endpoint ++ " is not callable."
  | .noCommand endpoint command =>
    "Shell query command " ++ Text.quoted command ++ " for endpoint " ++ Text.quoted endpoint
      ++ " was not found on PATH."
  | .inputSchema endpoint => "the input schema of " ++ Text.quoted endpoint ++ " is no schema"
  | .outputSchema endpoint => "the output schema of " ++ Text.quoted endpoint ++ " is no schema"
  | .checking why => why.message

/-- The registry of a server. -/
abbrev Endpoints := Registry (Chain.Handler Leaf)

namespace Site

/-- The symbol that the settings of a function name. -/
def symbolFor (site : Site) (boundary : Files.Boundary) (f : Config.Function) :
    Except Functions.LoadError Functions.Symbol :=
  match f.module with
  | some module =>
    if module.isEmpty then site.library.loadFile site.disk boundary (f.file.getD "") f.name
    else site.library.import? (if module.toList.contains ':' then module else module ++ ":" ++ f.name)
  | none => site.library.loadFile site.disk boundary (f.file.getD "") f.name

/-- The handler of an endpoint. -/
def handlerFor (site : Site) (server : Config.Server) (e : Config.Endpoint) :
    Except BuildError (Chain.Handler Leaf) := do
  let boundary := site.boundary server.directory
  match e.handler with
  | .prompt p =>
    let agent ← (Prompt.Agent.make site.disk site.environment boundary server p
      e.outputSchema.isSome).mapError .agent
    return .leaf (.prompt agent e.outputSchema)
  | .function f =>
    match ← (site.symbolFor boundary f).mapError (.function e.name) with
    | .function f => return .leaf (.function f)
    | .constant _ => throw (.notFunction e.name)
  | .tool t =>
    match site.commandOf t.command with
    | some command => return .leaf (.tool t command)
    | none => throw (.noCommand e.name t.command)
  | .chain c => return .chain c

/-- A schema that settings may give. -/
def compileSchema (fault : BuildError) : Option Value → Except BuildError (Option Schema)
  | none => .ok none
  | some source =>
    match Schema.compile source with
    | .ok (some schema) => .ok (some schema)
    | .ok none => .error fault
    | .error why => .error (.checking why)

/-- The entry of an endpoint. -/
def entryFor (site : Site) (server : Config.Server) (e : Config.Endpoint) :
    Except BuildError (Entry (Chain.Handler Leaf)) := do
  let handler ← site.handlerFor server e
  let input ← compileSchema (.inputSchema e.name) e.inputSchema
  let output ← compileSchema (.outputSchema e.name) e.outputSchema
  return ⟨e.name, handler, input, output⟩

/-- The line of the log for an endpoint in service. -/
def registered (e : Config.Endpoint) : LogLine :=
  ⟨.info, .handlers,
    "Registered " ++ e.handler.kind ++ " endpoint " ++ e.method.word ++ " " ++ e.path⟩

/-- Registers endpoints one after the other. The log tells of those that came before a failure, too. -/
def registerAll (site : Site) (server : Config.Server) :
    List Config.Endpoint → Endpoints → List LogLine → Except BuildError Endpoints × List LogLine
  | [], registry, log => (.ok registry, log)
  | e :: rest, registry, log =>
    match site.entryFor server e with
    | .error e => (.error e, log)
    | .ok entry => site.registerAll server rest (registry.register entry) (log ++ [registered e])

/-- Endpoints in the order in which they are put into service. -/
def inOrder (endpoints : List Config.Endpoint) : List Config.Endpoint :=
  endpoints.filter (!·.isChain) ++ endpoints.filter (·.isChain)

/-- The registry for the endpoints of a server, in addition to what is registered already. -/
def build (site : Site) (server : Config.Server) (registry : Endpoints) :
    Except BuildError Endpoints × List LogLine :=
  site.registerAll server (inOrder server.endpoints) registry []

end Site

end Switchboard
