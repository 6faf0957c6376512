import Switchboard.Config.Endpoint

/-!
Which endpoints the chains of a server call, and the check of that graph before the server starts.

`callGraph` lists for each chain the endpoints of its steps. `checkCalls` refuses a step that names no
endpoint and chains that call each other in a circle; what it accepts is the graph itself.
-/
namespace Switchboard.Config

/-- The endpoints that each chain calls, chains in the order of their declaration and targets in the
order of their first call. -/
abbrev CallGraph := List (String × List String)

/-- Texts without repetitions, in the order of first occurrence. -/
def distinct (seen : List String) : List String → List String
  | [] => []
  | s :: rest => if s ∈ seen then distinct seen rest else s :: distinct (s :: seen) rest

namespace CallGraph

/-- Puts the targets of a chain: a name that is present keeps its place. -/
def insert (name : String) (targets : List String) : CallGraph → CallGraph
  | [] => [(name, targets)]
  | (n, ts) :: rest =>
    if n = name then (name, targets) :: rest else (n, ts) :: insert name targets rest

/-- The targets of a chain. -/
def targets (g : CallGraph) (name : String) : Option (List String) := List.lookup name g

end CallGraph

/-- The chains among endpoints. -/
def chains (endpoints : List Endpoint) : List (Endpoint × Chain) :=
  endpoints.filterMap fun e =>
    match e.handler with
    | .chain c => some (e, c)
    | _ => none

/-- The graph of the calls between endpoints. -/
def callGraph (endpoints : List Endpoint) : CallGraph :=
  (chains endpoints).foldl
    (fun g (e, c) => g.insert e.name (distinct [] (c.steps.map (·.endpoint)))) []

/-- Why the calls between endpoints cannot be served. -/
inductive CallError where
  | unknownEndpoint (chain endpoint : String) (step : Nat)
  | circular (cycle : List String)
  deriving DecidableEq

/-- The message for it. -/
def CallError.message : CallError → String
  | .unknownEndpoint chain endpoint step =>
    "Chain endpoint \"" ++ chain ++ "\" step " ++ toString step
      ++ " references unknown endpoint \"" ++ endpoint ++ "\"."
  | .circular cycle => "Circular dependency detected: " ++ Text.join " -> " cycle

/-- The first step, counted from `index`, whose endpoint is not known. -/
def unknownStep (known : List String) (index : Nat) : List Step → Option (Nat × String)
  | [] => none
  | step :: rest =>
    if step.endpoint ∈ known then unknownStep known (index + 1) rest else some (index, step.endpoint)

/-- The first call to an endpoint that is not known, in the order of the chains and their steps. -/
def unknownCall (known : List String) : List (Endpoint × Chain) → Option CallError
  | [] => none
  | (e, c) :: rest =>
    match unknownStep known 0 c.steps with
    | some (step, endpoint) => some (.unknownEndpoint e.name endpoint step)
    | none => unknownCall known rest

/-- The part of the current path that starts at `target`, closed by `target` again; `path` holds the
names on the path, latest first. -/
def closeCycle (path : List String) (target : String) : List String :=
  (path.takeWhile (· != target) ++ [target]).reverse ++ [target]

mutual

/-- Visits a chain that was not visited before: either the names done, or a cycle. `path` holds the
names under way, latest first, and `fuel` bounds how deep the visit goes. -/
def visit (g : CallGraph) : (fuel : Nat) → (path done : List String) → String →
    Except (List String) (List String)
  | 0, _, done, _ => .ok done
  | fuel + 1, path, done, name =>
    match visitAll g fuel (name :: path) done ((g.targets name).getD []) with
    | .ok done => .ok (name :: done)
    | .error cycle => .error cycle

/-- Visits the targets of a chain in order; an endpoint that is no chain calls nothing. -/
def visitAll (g : CallGraph) : (fuel : Nat) → (path done : List String) → List String →
    Except (List String) (List String)
  | _, _, done, [] => .ok done
  | fuel, path, done, target :: rest =>
    if (g.targets target).isNone || target ∈ done then visitAll g fuel path done rest
    else if target ∈ path then .error (closeCycle path target)
    else
      match visit g fuel path done target with
      | .ok done => visitAll g fuel path done rest
      | .error cycle => .error cycle

end

/-- The first cycle met when the chains are visited in order, each followed by what it calls. A visit
never goes deeper than there are chains, since no name is twice on a path. -/
def findCycle? (g : CallGraph) : Option (List String) :=
  match visitAll g g.length [] [] (g.map (·.1)) with
  | .ok _ => none
  | .error cycle => some cycle

/-- The graph of the calls, if every call can be served and no chain can come back to itself. -/
def checkCalls (endpoints : List Endpoint) : Except CallError CallGraph :=
  match unknownCall (endpoints.map (·.name)) (chains endpoints) with
  | some e => .error e
  | none =>
    match findCycle? (callGraph endpoints) with
    | some cycle => .error (.circular cycle)
    | none => .ok (callGraph endpoints)

end Switchboard.Config
