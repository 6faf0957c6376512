import Switchboard.Http.App
import Switchboard.Proofs.Handlers.Build

/-!
What a server holds that was made from settings.

* `Pattern.read_of_plain`, `Pattern.captures?_literals` — a path without an opening brace is read as it
  stands, and what was read so matches itself, alone or with a line feed behind it;
* `create_eq_ok` — its calls were accepted, and its registry is the one that was built;
* `exists_create` — when it can be made;
* `mem_routes` — beside the route to its health it has the routes of its endpoints only;
* `direct_mem`, `direct_endpoint` — a request goes where one of its routes leads, to an endpoint of the
  settings;
* `serve_cases` — a request is answered by an endpoint, or it leaves no trace.
-/
namespace Switchboard.Http

/-! ### Paths without parameters -/

namespace Pattern

theorem readFrom_of_plain {cs : List Char} (h : '\x7b' ∉ cs) :
    readFrom 0 cs = .ok (cs.map .literal) := by
  induction cs with
  | nil => rfl
  | cons c rest ih =>
    simp only [List.mem_cons, not_or] at h
    have hdrop : Text.dropPrefix? ['\x7b'] (c :: rest) = none := by
      simp [Text.dropPrefix?, h.1]
    have hnone : parameter? (c :: rest) = none := by
      simp [parameter?, hdrop]
    rw [readFrom, hnone]
    simp only [ih h.2]
    rfl

/-- A path without an opening brace is read as it stands. -/
theorem read_of_plain {path : String} (h : '\x7b' ∉ path.toList) :
    Pattern.read path = .ok (path.toList.map .literal) := by
  have hnames : names (path.toList.map .literal) = [] := by
    simp [names]
  have hrepeated : repeatedNames [] = [] := by simp [repeatedNames]
  rw [Pattern.read, readFrom_of_plain h]
  simp only [bind, Except.bind, hnames, hrepeated]
  rfl

/-- A pattern without parameters takes its own text, alone or with a line feed behind it. -/
theorem captures?_literals (own path : List Char) :
    captures? (own.map .literal) path
      = if path = own ∨ path = own ++ ['\n'] then some [] else none := by
  induction own generalizing path with
  | nil => simp [captures?]
  | cons c rest ih =>
    cases path with
    | nil => simp [captures?]
    | cons d path =>
      rw [List.map_cons, captures?]
      by_cases hc : c = d
      · simp [hc, ih]
      · simp [hc, Ne.symm hc]

end Pattern

/-! ### Routes and servers -/

@[simp] theorem Route.target_health : Route.health.target = .health := rfl

/-- The route to an endpoint leads to its entry. -/
theorem Route.ofEndpoint_eq_ok {registry : Endpoints} {e : Config.Endpoint} {route : Route}
    (h : Route.ofEndpoint registry e = .ok route) :
    ∃ entry pattern, registry.lookup e.name = some entry ∧ Pattern.read e.path = .ok pattern ∧
      route = ⟨pattern, methodsFor e.method, .endpoint e.method entry⟩ := by
  rw [ofEndpoint] at h
  cases hentry : registry.lookup e.name with
  | none => simp [hentry] at h
  | some entry =>
    rw [hentry] at h
    cases hpattern : Pattern.read e.path with
    | error why => simp [hpattern] at h
    | ok pattern =>
      simp only [hpattern, Except.ok.injEq] at h
      exact ⟨entry, pattern, rfl, rfl, h.symm⟩

/-- A request goes where one of the routes leads. -/
theorem direct_mem {routes : List Route} {method path : String} {target : Target}
    (h : direct routes method path = .route target) : ∃ route ∈ routes, route.target = target := by
  rw [direct] at h
  split at h
  · next route hfound =>
    by_cases hover : route.overflows path
    · simp [hover] at h
    · simp only [hover] at h
      exact ⟨route, List.mem_of_find?_eq_some hfound, Direction.route.inj h⟩
  · -- no route takes the request, and what is said elsewhere never leads to a route
    rw [directElsewhere] at h
    split at h
    · simp at h
    · dsimp only at h
      split at h
      · simp at h
      · split at h
        · split at h <;> simp at h
        · simp at h

namespace App

variable {site : Site} {server : Config.Server} {registry : Endpoints} {app : App}
  {log : List LogLine}

/-- A server is made only of calls that were accepted and a registry that was built. -/
theorem create_eq_ok (h : create site server registry = (.ok app, log)) :
    ∃ g built routes, Config.checkCalls server.endpoints = .ok g ∧
      site.build server registry = (.ok app.registry, built) ∧
        server.endpoints.mapM (Route.ofEndpoint app.registry) = .ok routes ∧
          app.routes = .health :: routes := by
  rw [create, checkCalls] at h
  cases hcalls : Config.checkCalls server.endpoints with
  | error e => simp [hcalls] at h
  | ok g =>
    rcases hbuild : site.build server registry with ⟨e | built, lines⟩
    · simp [hcalls, hbuild] at h
    · cases hroutes : server.endpoints.mapM (Route.ofEndpoint built) with
      | error e => simp [hcalls, hbuild, hroutes] at h
      | ok routes =>
        simp only [hcalls, hbuild, hroutes, Prod.mk.injEq, Except.ok.injEq] at h
        obtain ⟨rfl, -⟩ := h
        exact ⟨g, lines, routes, rfl, rfl, hroutes, rfl⟩

/-- A server can be made whenever its calls are accepted, its registry is built and its paths are
patterns. -/
theorem exists_create {g : Config.CallGraph} {built : Endpoints} {lines : List LogLine}
    (hcalls : Config.checkCalls server.endpoints = .ok g)
    (hbuild : site.build server registry = (.ok built, lines))
    (hnames : (server.endpoints.map (·.name)).Nodup)
    (hpaths : ∀ e ∈ server.endpoints, ∃ pattern, Pattern.read e.path = .ok pattern) :
    ∃ app log, create site server registry = (.ok app, log) := by
  obtain ⟨routes, hroutes⟩ : ∃ routes,
      server.endpoints.mapM (Route.ofEndpoint built) = .ok routes := by
    refine exists_mapM fun e he => ?_
    obtain ⟨entry, -, hentry⟩ := Site.build_lookup hbuild hnames he
    obtain ⟨pattern, hpattern⟩ := hpaths e he
    refine ⟨⟨pattern, methodsFor e.method, .endpoint e.method entry⟩, ?_⟩
    simp only [Route.ofEndpoint, hentry, hpattern]
  simp only [create, checkCalls, hcalls, hbuild, hroutes]
  exact ⟨_, _, rfl⟩

/-- Every route of a server leads to its health or to an endpoint of the settings. -/
theorem mem_routes (h : create site server registry = (.ok app, log)) {route : Route}
    (hroute : route ∈ app.routes) :
    route = .health ∨ ∃ e ∈ server.endpoints, Route.ofEndpoint app.registry e = .ok route := by
  obtain ⟨-, -, routes, -, -, hroutes, happ⟩ := create_eq_ok h
  rw [happ] at hroute
  rcases List.mem_cons.mp hroute with rfl | hroute
  · exact .inl rfl
  · exact .inr (mem_of_mapM hroutes hroute)

/-! ### Requests -/

section Serve

variable {σ : Type}

/-- Answers a request as `handle` does, with leaves that may be called in any way. -/
def serve (app : App) (leaves : Chain.Leaves Leaf σ) (r : Request) (s : Chain.Session σ) :
    (Except Escape Response × List LogLine) × Chain.Session σ :=
  match direct app.routes r.method r.path with
  | .route .health => ((Response.json 200 app.healthBody, []), s)
  | .route (.endpoint method entry) => answer (Chain.call leaves app.registry) method entry r s
  | .refused allow => ((.ok (.methodNotAllowed allow), []), s)
  | .moved path => ((.ok (.redirect (locationOf r path)), []), s)
  | .lost => ((.ok .notFound, []), s)
  | .unreadable => ((.error .digits, []), s)

theorem handle_eq_serve (app : App) (service : Service σ) (r : Request) (s : Chain.Session σ) :
    app.handle service r s = app.serve (Leaf.call service) r s := rfl

/-- A request is answered by an endpoint, or it leaves no trace and is answered with status 200 only
when it asks for the health of the server. -/
theorem serve_cases (app : App) (leaves : Chain.Leaves Leaf σ) (r : Request)
    (s : Chain.Session σ) :
    ((app.serve leaves r s).2 = s ∧
      ∀ response, (app.serve leaves r s).1.1 = .ok response → response.status = 200 →
        direct app.routes r.method r.path = .route .health) ∨
    ∃ method entry, direct app.routes r.method r.path = .route (.endpoint method entry) ∧
      app.serve leaves r s = answer (Chain.call leaves app.registry) method entry r s := by
  rw [serve]
  cases hdirect : direct app.routes r.method r.path with
  | route target =>
    cases target with
    | health => exact .inl ⟨rfl, fun _ _ _ => rfl⟩
    | endpoint method entry => exact .inr ⟨method, entry, rfl, rfl⟩
  | refused allow =>
    refine .inl ⟨rfl, fun response h hstatus => ?_⟩
    obtain rfl : Response.methodNotAllowed allow = response := Except.ok.inj h
    simp [Response.methodNotAllowed, Response.plain] at hstatus
  | moved path =>
    refine .inl ⟨rfl, fun response h hstatus => ?_⟩
    obtain rfl : Response.redirect (locationOf r path) = response := Except.ok.inj h
    simp [Response.redirect] at hstatus
  | lost =>
    refine .inl ⟨rfl, fun response h hstatus => ?_⟩
    obtain rfl : Response.notFound = response := Except.ok.inj h
    simp [Response.notFound, Response.plain] at hstatus
  | unreadable => exact .inl ⟨rfl, by simp⟩

end Serve

/-- The relay is a server whenever its registry is built. -/
theorem exists_create_relay {schema : Option Value} {registry built : Endpoints}
    {lines : List LogLine}
    (hbuild : Relay.site.build (Relay.server schema) registry = (.ok built, lines)) :
    ∃ app log, create Relay.site (Relay.server schema) registry = (.ok app, log) := by
  have hnames := Config.Server.names_nodup (Relay.server_unambiguous schema)
  have hplain : ∀ path ∈ (Relay.server schema).endpoints.map (·.path), '\x7b' ∉ path.toList := by
    have hpaths : (Relay.server schema).endpoints.map (·.path) = ["/outer", "/inner", "/tool"] := rfl
    rw [hpaths]
    decide
  exact exists_create (Relay.server_calls schema) hbuild hnames fun e he =>
    ⟨_, Pattern.read_of_plain (hplain _ (List.mem_map_of_mem he))⟩

end App

/-- The endpoint that a request goes to is one of the settings, with the entry of its name. -/
theorem direct_endpoint {site : Site} {server : Config.Server} {registry : Endpoints} {app : App}
    {log : List LogLine} (hcreate : App.create site server registry = (.ok app, log))
    {requestMethod path : String} {method : Config.Method} {entry : Entry (Chain.Handler Leaf)}
    (h : direct app.routes requestMethod path = .route (.endpoint method entry)) :
    ∃ e ∈ server.endpoints, e.method = method ∧ app.registry.lookup e.name = some entry := by
  obtain ⟨route, hroute, htarget⟩ := direct_mem h
  rcases App.mem_routes hcreate hroute with hhealth | ⟨e, he, hof⟩
  · rw [hhealth, Route.target_health] at htarget
    cases htarget
  · obtain ⟨entry', pattern, hentry, -, rfl⟩ := Route.ofEndpoint_eq_ok hof
    obtain ⟨rfl, rfl⟩ := Target.endpoint.inj htarget
    exact ⟨e, he, rfl, hentry⟩

end Switchboard.Http
