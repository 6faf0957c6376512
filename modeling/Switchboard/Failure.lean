import Switchboard.Json.Embedded
import Switchboard.Prompt.Request
import Switchboard.Query
import Switchboard.Schema
import Switchboard.Template.Path
import Switchboard.Trouble

/-!
Why a call did not give an output.

A leaf handler fails in its own words or for a reason of its kind; a chain fails at one of its steps
or in the template of its result. The failure of a step whose handler failed holds the failure of the
handler, so that a tower of chains keeps the whole way down to the first cause.
-/
namespace Switchboard

/-- A step of a chain as messages name it. -/
structure Place where
  step : Int
  name : Option String
  endpoint : String
  deriving DecidableEq

/-- A place as it stands in front of messages. A name or an endpoint that is empty is left out. -/
def Place.text (p : Place) : String :=
  let name := match p.name with
    | some name => if name.isEmpty then "" else " \"" ++ name ++ "\""
    | none => ""
  let endpoint := if p.endpoint.isEmpty then "" else " (endpoint \"" ++ p.endpoint ++ "\")"
  "Chain step " ++ toString p.step ++ name ++ endpoint ++ ": "

/-- How far a run of a chain has come. -/
inductive Status where
  | pending
  | running
  | succeeded
  | failed
  deriving DecidableEq

/-- The word for a status. -/
def Status.word : Status → String
  | .pending => "pending"
  | .running => "running"
  | .succeeded => "succeeded"
  | .failed => "failed"

/-- Why a call did not give an output. -/
inductive Failure where
  /-- a handler gave up -/
  | raised (trouble : Trouble) (message : String)
  /-- the payload has no value for a placeholder of the query -/
  | query (e : Query.RenderError)
  /-- a tool ended with a status other than zero -/
  | exited (command : String) (code : Int) (complaint : String)
  /-- a tool took too long -/
  | timeout
  /-- the payload cannot be told to a model -/
  | request (e : Prompt.RequestError)
  /-- no model answered -/
  | model (message : String)
  /-- the answer of a model is not what was asked for -/
  | reply (e : Json.ReplyError)
  /-- a template could not be evaluated for a reason outside its rules -/
  | template (e : Template.Error)
  /-- a value could not be checked against a schema -/
  | checking (why : Schema.Interruption)
  /-- a run that is over was to be continued -/
  | over (status : Status)
  /-- chains called each other deeper than there are endpoints -/
  | tooDeep
  /-- a step names an endpoint that is not there -/
  | unregistered (place : Place)
  /-- the input of a step has no value -/
  | inputTemplate (place : Place) (e : Template.Error)
  /-- the endpoint does not take the input of a step -/
  | inputRejected (place : Place) (reports : List Report)
  /-- the handler of a step failed -/
  | handler (place : Place) (cause : Failure)
  /-- the endpoint may not give the output of a step -/
  | outputRejected (place : Place) (reports : List Report)
  /-- the result of a chain has no value -/
  | outputTemplate (e : Template.Error)

namespace Failure

/-- The message for a failure. -/
def message : Failure → String
  | .raised _ message => message
  | .query e => e.message
  | .exited command code complaint =>
    command ++ " exited with status " ++ toString code ++ ": " ++ complaint
  | .timeout => ""
  | .request e => e.message
  | .model message => message
  | .reply e => e.message
  | .template e => e.message
  | .checking why => why.message
  | .over status => "Chain run already " ++ status.word ++ "."
  | .tooDeep => "maximum recursion depth exceeded"
  | .unregistered place =>
    place.text ++ "endpoint \"" ++ place.endpoint ++ "\" is not registered"
  | .inputTemplate place e => place.text ++ "input template failed: " ++ e.message
  | .inputRejected place reports =>
    place.text ++ "input validation failed: " ++ Report.describe reports
  | .handler place cause => place.text ++ "handler failed: " ++ cause.message
  | .outputRejected place reports =>
    place.text ++ "output validation failed: " ++ Report.describe reports
  | .outputTemplate e => "Chain output mapping failed: " ++ e.message

/-- Whether a failure is that of a chain. -/
def isOfChain : Failure → Bool
  | .unregistered _ | .inputTemplate _ _ | .inputRejected _ _ | .handler _ _ | .outputRejected _ _
  | .outputTemplate _ => true
  | _ => false

/-- The step at which a chain failed. -/
def place? : Failure → Option Place
  | .unregistered place | .inputTemplate place _ | .inputRejected place _ | .handler place _
  | .outputRejected place _ => some place
  | _ => none

/-- What a schema did not allow. -/
def details : Failure → List Report
  | .inputRejected _ reports | .outputRejected _ reports => reports
  | _ => []

/-- The failure behind the failure of a chain. -/
def cause? : Failure → Option Failure
  | .inputTemplate _ e | .outputTemplate e => some (.template e)
  | .handler _ cause => some cause
  | _ => none

end Failure

end Switchboard
