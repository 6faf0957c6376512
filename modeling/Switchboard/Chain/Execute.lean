import Switchboard.Chain.Run
import Switchboard.Config.Endpoint
import Switchboard.Registry
import Switchboard.Template.Evaluate

/-!
Execution of chains: step by step, each step with the input that its template gives, checked before
and after the call by the schemas of the endpoint that the step names.

How a handler is called is a parameter of `runStep`, `runSteps` and `execute`; `callHandler` closes
the circle, with a bound on how deep chains may call chains. Every call goes through `invoke`, which
notes it in the session first.
-/
namespace Switchboard.Chain

/-- A call of an endpoint: its payload as it was at that time. -/
structure Call where
  endpoint : String
  payload : Value
  request : Value

/-- An output of an endpoint that a run went on with, as it was at that time. -/
structure Kept where
  endpoint : String
  output : Value

/-- What executions leave behind: the contexts of all runs, the calls and the kept outputs in order,
and the state of whatever answers the leaf handlers. -/
structure Session (σ : Type) where
  history : History
  calls : List Call
  kept : List Kept
  state : σ

namespace Session

variable {σ : Type}

/-- A session in which nothing has happened. -/
def start (state : σ) : Session σ := ⟨[], [], [], state⟩

/-- Opens the context of a new run, whose number is the number of contexts before it. -/
def openRun (s : Session σ) (input : Value) : Session σ :=
  { s with history := s.history ++ [.start input] }

/-- Records the output of a step. -/
def record (s : Session σ) (run : Nat) (step : Config.Step) (output : Value) : Session σ :=
  { s with
    history := s.history.record run output step.name
    kept := s.kept ++ [⟨step.endpoint, s.history.reveal output⟩] }

end Session

/-- What is registered for an endpoint: a handler that answers by itself, or a chain. -/
inductive Handler (L : Type) where
  | leaf (handler : L)
  | chain (chain : Config.Chain)

/-- How handlers that answer by themselves are called, with a payload and a request. -/
abbrev Leaves (L σ : Type) :=
  L → History → (payload request : Value) → σ → Except Failure Value × σ

/-- How handlers are called. -/
abbrev Caller (L σ : Type) :=
  Handler L → (payload request : Value) → Session σ → Except Failure Value × Session σ

variable {L σ : Type}

/-- What a schema does not allow in a value; without a schema everything is allowed. -/
def rejections (schema : Option Schema) (h : History) (v : Value) :
    Except Schema.Interruption (List Report) :=
  match schema with
  | none => .ok []
  | some schema => schema.reports (h.reveal v)

/-- Calls an endpoint. -/
def invoke (call : Caller L σ) (entry : Entry (Handler L)) (payload request : Value)
    (s : Session σ) : Except Failure Value × Session σ :=
  let noted := { s with calls := s.calls ++ [⟨entry.name, s.history.reveal payload, request⟩] }
  call entry.handler payload request noted

/-- The place of a step in its chain. -/
def placeOf (index : Nat) (step : Config.Step) : Place := ⟨index, step.name, step.endpoint⟩

/-- The failure of a template. -/
def templateFailure (fault : Template.Error → Failure) (e : Template.Error) : Failure :=
  if e.isTemplateFault then fault e else .template e

/-- A value that a schema allows. -/
def allowed (schema : Option Schema) (rejected : List Report → Failure) (h : History) (v : Value) :
    Except Failure Value :=
  match rejections schema h v with
  | .error why => .error (.checking why)
  | .ok [] => .ok v
  | .ok reports => .error (rejected reports)

/-- The input of a step: the value of its template, if the endpoint takes it. -/
def stepInput (h : History) (run : Nat) (place : Place) (template : Value) (schema : Option Schema) :
    Except Failure Value := do
  let input ← (Template.compile h run template).mapError (templateFailure (.inputTemplate place))
  allowed schema (.inputRejected place) h input

/-- Takes one step. -/
def runStep (call : Caller L σ) (registry : Registry (Handler L)) (run : Nat) (request : Value)
    (index : Nat) (step : Config.Step) (s : Session σ) : Except Failure Value × Session σ :=
  let place := placeOf index step
  match registry.lookup step.endpoint with
  | none => (.error (.unregistered place), s)
  | some entry =>
    match stepInput s.history run place step.input entry.input with
    | .error e => (.error e, s)
    | .ok input =>
      match invoke call entry input request s with
      | (.error cause, s) => (.error (.handler place cause), s)
      | (.ok output, s) => (allowed entry.output (.outputRejected place) s.history output, s)

/-- Takes steps one after the other until one fails. -/
def runSteps (call : Caller L σ) (registry : Registry (Handler L)) (run : Nat) (request : Value) :
    (index : Nat) → List Config.Step → Run → Session σ → (Except Failure Unit × Run) × Session σ
  | _, [], record, s => ((.ok (), record), s)
  | index, step :: rest, record, s =>
    match record.startStep index with
    | .error e => ((.error e, record), s)
    | .ok record =>
      match runStep call registry run request index step s with
      | (.error e, s) => ((.error e, record), s)
      | (.ok output, s) =>
        runSteps call registry run request (index + 1) rest record (s.record run step output)

/-- The result of a chain after its last step. -/
def result (h : History) (run : Nat) (output : Value) : Except Failure Value :=
  match output with
  | .null => .ok ((h.context run).previous?.getD .null)
  | template => (Template.compile h run template).mapError (templateFailure .outputTemplate)

/-- Ends a run: a failure of the chain is kept in the run's record, any other leaves it open. -/
def close (outcome : Except Failure Value) (record : Run) : Except Failure Value × Run :=
  match outcome with
  | .ok v =>
    match record.succeed v with
    | .ok record => (.ok v, record)
    | .error e => (.error e, record)
  | .error e =>
    if e.isOfChain then
      match record.fail e with
      | .ok record => (.error e, record)
      | .error e => (.error e, record)
    else (.error e, record)

/-- Executes a chain, continuing the record of a run. -/
def execute (call : Caller L σ) (registry : Registry (Handler L)) (chain : Config.Chain)
    (payload request : Value) (record : Run) (s : Session σ) :
    (Except Failure Value × Run) × Session σ :=
  let run := s.history.length
  match runSteps call registry run request 0 chain.steps record (s.openRun payload) with
  | ((.error e, record), s) => (close (.error e) record, s)
  | ((.ok (), record), s) => (close (result s.history run chain.output) record, s)

/-- Calls a handler; `fuel` bounds how deep chains call chains. -/
def callHandler (leaves : Leaves L σ) (registry : Registry (Handler L)) : (fuel : Nat) → Caller L σ
  | _, .leaf handler, payload, request, s =>
    match leaves handler s.history payload request s.state with
    | (outcome, state) => (outcome, { s with state := state })
  | 0, .chain _, _, _, s => (.error .tooDeep, s)
  | fuel + 1, .chain chain, payload, request, s =>
    match execute (callHandler leaves registry fuel) registry chain payload request .fresh s with
    | ((outcome, _), s) => (outcome, s)

/-- The depth that suffices where no chain comes back to itself. -/
def depth (registry : Registry (Handler L)) : Nat := registry.size + 1

/-- Calls a handler of a registry. -/
def call (leaves : Leaves L σ) (registry : Registry (Handler L)) : Caller L σ :=
  callHandler leaves registry (depth registry)

end Switchboard.Chain
