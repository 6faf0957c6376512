import Switchboard.Handlers.Build
import Switchboard.Http.Pattern
import Switchboard.Http.Route

/-!
The server as a whole: a registry and the routes to it, made from settings in one go or not at all.

Routes are tried in order. The first whose pattern and methods both match answers; a path known only
for other methods is refused with the methods of its first route, and a path that is known with or
without a slash at its end is redirected there.
-/
namespace Switchboard.Http

/-- Where a route leads. -/
inductive Target where
  | health
  | endpoint (method : Config.Method) (entry : Entry (Chain.Handler Leaf))

/-- A route: the paths and the methods that it takes, and where it leads. -/
structure Route where
  pattern : Pattern
  methods : List String
  target : Target

/-- The methods of a route, in order; what can be read can also be asked about. -/
def methodsFor : Config.Method → List String
  | .get => ["GET", "HEAD"]
  | method => [method.word]

/-- A server. -/
structure App where
  registry : Endpoints
  routes : List Route

/-- Why a server cannot start. -/
inductive StartError where
  | calls (e : Config.CallError)
  | build (e : BuildError)
  | pattern (e : PatternError)
  | unregistered (endpoint : String)

/-- The message for it. -/
def StartError.message : StartError → String
  | .calls e => e.message
  | .build e => e.message
  | .pattern e => e.message
  | .unregistered endpoint => "Endpoint " ++ Text.quoted endpoint ++ " was not registered."

/-- The targets of a chain as the log writes them. -/
def targetsText : List String → String
  | [target] => "(" ++ Text.quoted target ++ ",)"
  | targets => "(" ++ Text.join ", " (targets.map Text.quoted) ++ ")"

/-- The line of the log for a graph of calls that can be served. -/
def validated (g : Config.CallGraph) : LogLine :=
  let members := g.map fun (name, targets) => Text.quoted name ++ ": " ++ targetsText targets
  ⟨.debug, .graph, "Chain graph validated: \x7b" ++ Text.join ", " members ++ "\x7d"⟩

/-- Checks the calls between the endpoints of a server. -/
def checkCalls (server : Config.Server) : Except StartError Config.CallGraph × List LogLine :=
  match Config.checkCalls server.endpoints with
  | .error e => (.error (.calls e), [])
  | .ok g => (.ok g, [validated g])

namespace Route

/-- The route that tells that the server is up. -/
def health : Route := ⟨"/health".toList.map .literal, methodsFor .get, .health⟩

/-- The route to an endpoint. -/
def ofEndpoint (registry : Endpoints) (e : Config.Endpoint) : Except StartError Route :=
  match registry.lookup e.name with
  | none => .error (.unregistered e.name)
  | some entry =>
    match Pattern.read e.path with
    | .error e => .error (.pattern e)
    | .ok pattern => .ok ⟨pattern, methodsFor e.method, .endpoint e.method entry⟩

/-- What the parameters of a route take from a path that it matches. -/
def captures? (route : Route) (path : String) : Option (List (ParameterKind × List Char)) :=
  Pattern.captures? route.pattern path.toList

/-- Whether a route matches a path. -/
def accepts (route : Route) (path : String) : Bool := (route.captures? path).isSome

/-- Whether a route matches a path that holds a number with more digits than can be read. -/
def overflows (route : Route) (path : String) : Bool :=
  ((route.captures? path).getD []).any fun (kind, cs) =>
    kind == .integer && Json.maxDigits < cs.length

end Route

/-- Where a request goes. -/
inductive Direction where
  | route (target : Target)
  | refused (allow : List String)
  | moved (path : String)
  | lost
  | unreadable

/-- A path with the slash at its end taken away or added. -/
def otherPath (path : String) : String :=
  let cs := path.toList
  if cs.getLast? = some '/' then String.ofList (cs.reverse.dropWhile (· = '/')).reverse
  else path ++ "/"

/-- Where a request goes when none of the routes takes both its path and its method. -/
def directElsewhere (routes : List Route) (path : String) : Direction :=
  match routes.find? (·.accepts path) with
  | some route => .refused route.methods
  | none =>
    let other := otherPath path
    if path == "/" then .lost
    else
      match routes.find? (·.accepts other) with
      | some route => if route.overflows other then .unreadable else .moved other
      | none => .lost

/-- Where a request goes. -/
def direct (routes : List Route) (method path : String) : Direction :=
  match routes.find? fun route => route.overflows path
      || (route.accepts path && route.methods.contains method) with
  | some route => if route.overflows path then .unreadable else .route route.target
  | none => directElsewhere routes path

namespace App

/-- Makes a server from settings, on top of a registry. The calls between the endpoints are checked
before anything is registered. -/
def create (site : Site) (server : Config.Server) (registry : Endpoints) :
    Except StartError App × List LogLine :=
  match checkCalls server with
  | (.error e, log) => (.error e, log)
  | (.ok _, log) =>
    match site.build server registry with
    | (.error e, built) => (.error (.build e), log ++ built)
    | (.ok registry, built) =>
      match server.endpoints.mapM (Route.ofEndpoint registry) with
      | .error e => (.error e, log ++ built)
      | .ok routes => (.ok ⟨registry, .health :: routes⟩, log ++ built)

/-- The body that tells that the server is up. -/
def healthBody (app : App) : Value :=
  .ofFields [("status", .str "ok"), ("endpoints", .list (app.registry.names.map .str))]

/-- Where a request is redirected to. A mark in the path that would end it is escaped. -/
def locationOf (r : Request) (path : String) : String :=
  let path := String.ofList (Text.percentEncoded (fun c => c != '?' && c != '#') path.toList)
  "http://" ++ r.host ++ path ++ (if r.query.isEmpty then "" else "?" ++ r.query)

/-- Answers a request, or says what kept it from being answered. -/
def handle {σ : Type} (app : App) (service : Service σ) (r : Request) (s : Chain.Session σ) :
    (Except Escape Response × List LogLine) × Chain.Session σ :=
  match direct app.routes r.method r.path with
  | .route .health => ((Response.json 200 app.healthBody, []), s)
  | .route (.endpoint method entry) =>
    answer (Chain.call (Leaf.call service) app.registry) method entry r s
  | .refused allow => ((.ok (.methodNotAllowed allow), []), s)
  | .moved path => ((.ok (.redirect (locationOf r path)), []), s)
  | .lost => ((.ok .notFound, []), s)
  | .unreadable => ((.error .digits, []), s)

end App

end Switchboard.Http
