import Switchboard.Chain.Execute
import Switchboard.Functions.Signature
import Switchboard.Prompt.Agent
import Switchboard.Tools.Octets

/-!
Handlers that answer by themselves: a prompt to a model, a function, a tool.

What a model answers is a parameter, a `Service`: it may depend on a state of its own, which calls
thread through.
-/
namespace Switchboard

/-- A leaf of the tree of calls. -/
inductive Leaf where
  | prompt (agent : Prompt.Agent) (schema : Option Value)
  | function (f : Functions.Function)
  | tool (t : Config.Tool) (command : List String → Tools.Outcome)

/-- What asking a model comes to: its answer, or what it fails with. -/
abbrev Service (σ : Type) := Prompt.Agent → (prompt : String) → σ → Except String String × σ

namespace Leaf

/-- The value of a model's answer: JSON where the endpoint promises an output, otherwise a text. -/
def readReply (wantsJson : Bool) (reply : String) : Except Failure Value :=
  if wantsJson then (Json.parseReply reply.toList).mapError .reply
  else .ok (.ofFields [("text", .str reply)])

/-- Asks a model. -/
def ask {σ : Type} (service : Service σ) (agent : Prompt.Agent) (schema : Option Value)
    (payload : Value) (state : σ) : Except Failure Value × σ :=
  match Prompt.request payload schema with
  | .error e => (.error (.request e), state)
  | .ok question =>
    match service agent question state with
    | (.ok reply, state) => (readReply schema.isSome reply, state)
    | (.error message, state) => (.error (.model message), state)

/-- A text from the bytes that a tool writes, without the blanks around it. -/
def outputText (data : Tools.Octets) : String :=
  String.ofList (Text.strip (Text.Utf8.decodeLenient (Tools.Octets.bytes data)))

/-- What the outcome of a tool means. -/
def readOutcome (t : Config.Tool) (outcome : Tools.Outcome) : Except Failure Value :=
  if t.timeout ≤ 0.0 || outcome.seconds > t.timeout then .error .timeout
  else if outcome.status != 0 then
    .error (.exited t.command outcome.status (outputText outcome.complaints))
  else .ok (Json.parseOutput (outputText outcome.output))

/-- Runs a tool with the rendered query as its last argument. -/
def runTool (t : Config.Tool) (command : List String → Tools.Outcome) (payload : Value) :
    Except Failure Value := do
  let query ← (Query.render t.query payload).mapError .query
  let arguments := t.args ++ [query]
  if arguments.any fun a => a.toList.contains '\x00' then
    throw (.raised .argument "embedded null byte")
  readOutcome t (command arguments)

/-- Calls a leaf. -/
def call {σ : Type} (service : Service σ) : Chain.Leaves Leaf σ
  | .prompt agent schema, h, payload, _, state => ask service agent schema (h.reveal payload) state
  | .function f, h, payload, request, state => (f.call h payload request, state)
  | .tool t command, h, payload, _, state => (runTool t command (h.reveal payload), state)

end Leaf

end Switchboard
