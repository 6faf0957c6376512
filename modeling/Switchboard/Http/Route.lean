import Switchboard.Chain.Execute
import Switchboard.Http.Request
import Switchboard.Http.Response
import Switchboard.Log

/-!
The answer of one endpoint to one request: read the payload, check it, call the handler, check the
output, and write it.
-/
namespace Switchboard.Http

/-- What the handler of a request gets to see of it. -/
def requestValue : Value := .foreign "Request"

/-- The body of an error. -/
def errorBody (error : String) (more : List (String × Value)) : Value :=
  .ofFields (("error", .str error) :: more)

/-- What a schema did not allow, in a body. -/
def detailsValue (reports : List Report) : Value := .list (reports.map Report.toValue)

/-- The body for a failure of a handler. -/
def failureBody (e : Failure) : Value :=
  if e.isOfChain then
    errorBody "Chain execution failed"
      [("detail", .str e.message),
        ("step", match e.place? with | some place => .int place.step | none => .null),
        ("endpoint", match e.place? with | some place => .str place.endpoint | none => .null),
        ("details", detailsValue e.details)]
  else errorBody "Handler error" [("detail", .str e.message)]

/-- What the log says about a failure of a handler. -/
def failureLine (endpoint : String) (e : Failure) : LogLine :=
  ⟨.error, .server,
    if e.isOfChain then "Endpoint " ++ endpoint ++ " failed: " ++ e.message
    else "Endpoint " ++ endpoint ++ " raised"⟩

/-- The response with an output, if the endpoint may give it. -/
def outputResponse (schema : Option Schema) (h : History) (output : Value) :
    Except Escape Response := do
  match ← (Chain.rejections schema h output).mapError .checking with
  | [] => Response.json 200 (h.reveal output)
  | reports =>
    Response.json 500
      (errorBody "Handler output failed validation" [("details", detailsValue reports)])

/-- Answers a request with a payload that the endpoint takes. -/
def answerCall {L σ : Type} (call : Chain.Caller L σ) (entry : Entry (Chain.Handler L))
    (payload : Value) (s : Chain.Session σ) :
    (Except Escape Response × List LogLine) × Chain.Session σ :=
  match Chain.invoke call entry payload requestValue s with
  | (.error e, s) => ((Response.json 500 (failureBody e), [failureLine entry.name e]), s)
  | (.ok output, s) => ((outputResponse entry.output s.history output, []), s)

/-- Answers a request to an endpoint. -/
def answer {L σ : Type} (call : Chain.Caller L σ) (method : Config.Method)
    (entry : Entry (Chain.Handler L)) (r : Request) (s : Chain.Session σ) :
    (Except Escape Response × List LogLine) × Chain.Session σ :=
  match payload? method r with
  | none => ((Response.json 400 (errorBody "Invalid JSON body" []), []), s)
  | some payload =>
    match Chain.rejections entry.input s.history payload with
    | .error why => ((.error (.checking why), []), s)
    | .ok [] => answerCall call entry payload s
    | .ok reports =>
      ((Response.json 400 (errorBody "Invalid request" [("details", detailsValue reports)]), []), s)

end Switchboard.Http
