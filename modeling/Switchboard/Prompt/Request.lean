import Switchboard.Yaml.Writer
import Switchboard.Json.Writer

/-!
What a model is told about one request: the payload as YAML and, where the endpoint promises an
output, the schema that the reply has to meet. Equal payloads give equal texts whatever the order of
their keys, so that backends can reuse what they computed for a common beginning.
-/
namespace Switchboard.Prompt

/-- Why a payload has no text. -/
inductive RequestError where
  | payload (e : Yaml.Unwritable)
  | schema (e : Json.WriteError)

/-- The message for it. -/
def RequestError.message : RequestError → String
  | .payload e => e.message
  | .schema e => e.message

/-- The payload as YAML; an absent or empty one is an empty mapping. -/
def payloadText (payload : Value) : Except RequestError String :=
  match payload with
  | .null | .object [] => .ok "\x7b\x7d"
  | v => (Yaml.write v).mapError .payload |>.map Text.strippedEnd

/-- The lines about the form of the reply. -/
def schemaLines : Option Value → Except RequestError (List String)
  | none => .ok []
  | some schema => do
    let text ← (Json.write .indented 0 schema).mapError .schema
    return ["", "## Response Format",
      "Reply with a single JSON object matching this JSON Schema:", text]

/-- The prompt for a request. -/
def request (payload : Value) (schema : Option Value) : Except RequestError String := do
  let lines := ["## Request (YAML)", ← payloadText payload] ++ (← schemaLines schema)
  return Text.strippedEnd (Text.join "\n" lines) ++ "\n"

end Switchboard.Prompt
