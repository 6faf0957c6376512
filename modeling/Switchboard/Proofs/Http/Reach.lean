import Switchboard.Proofs.Http.App

/-!
Which requests reach an endpoint by the path and the method that its settings give it.

* `direct_append` — among routes without parameters a request goes to the first that takes it;
* `App.direct_own_iff` — a request with the method and the path of an endpoint goes to that endpoint,
  unless a route that is tried before takes it too.

Settings that were read keep the routes of their endpoints apart, but the route to the health of the
server is no endpoint of the settings and is tried first. A route also takes its path with a line feed
behind it, so an endpoint with such a path can stand behind another one.
-/
namespace Switchboard.Http

/-! ### Routes without parameters -/

/-- A route without parameters, with the path that it is for. -/
def Route.IsPlain (route : Route) (own : String) : Prop :=
  route.pattern = own.toList.map .literal

/-- A path that is another one, or that with a line feed behind it. -/
def Follows (path own : String) : Prop := path = own ∨ path = own ++ "\n"

instance (path own : String) : Decidable (Follows path own) :=
  inferInstanceAs (Decidable (_ ∨ _))

theorem Route.captures?_of_isPlain {route : Route} {own : String} (h : route.IsPlain own)
    (path : String) : route.captures? path = if Follows path own then some [] else none := by
  have hfeed : path.toList = own.toList ++ ['\n'] ↔ path = own ++ "\n" := by
    rw [← String.toList_inj, String.toList_append]
    rfl
  rw [captures?, h, Pattern.captures?_literals]
  exact if_congr (or_congr String.toList_inj hfeed) rfl rfl

theorem Route.accepts_of_isPlain {route : Route} {own : String} (h : route.IsPlain own)
    (path : String) : route.accepts path = decide (Follows path own) := by
  rw [accepts, captures?_of_isPlain h]
  split <;> simp [*]

/-- A route without parameters holds no number. -/
theorem Route.overflows_of_isPlain {route : Route} {own : String} (h : route.IsPlain own)
    (path : String) : route.overflows path = false := by
  rw [overflows, captures?_of_isPlain h]
  split <;> rfl

/-- Whether a route takes a request. -/
def Route.takes (route : Route) (method path : String) : Bool :=
  route.accepts path && route.methods.contains method

/-- Among routes without numbers in their paths a request goes to the first that takes it. -/
theorem direct_append {before after : List Route} {route : Route} {method path : String}
    (hover : ∀ r ∈ before ++ [route], r.overflows path = false) (htakes : route.takes method path) :
    direct (before ++ route :: after) method path
      = .route ((before.find? (·.takes method path)).getD route).target := by
  obtain ⟨hbefore, hown⟩ := List.forall_mem_append.mp hover
  have hown : route.overflows path = false := hown route List.mem_cons_self
  let wanted : Route → Bool := fun r =>
    r.overflows path || (r.accepts path && r.methods.contains method)
  have hsame : before.find? wanted = before.find? (·.takes method path) := by
    rw [← List.head?_filter, ← List.head?_filter]
    exact congrArg List.head? (List.filter_congr fun r hr => by simp [wanted, hbefore r hr, Route.takes])
  have hwanted : wanted route = true := by
    simpa [wanted, hown, Route.takes] using htakes
  have hfind : (before ++ route :: after).find? wanted
      = some ((before.find? (·.takes method path)).getD route) := by
    rw [List.find?_append, hsame, List.find?_cons_of_pos hwanted]
    cases before.find? (·.takes method path) <;> rfl
  have hfirst : ((before.find? (·.takes method path)).getD route).overflows path = false := by
    cases hfound : before.find? (·.takes method path) with
    | none => exact hown
    | some r => exact hbefore r (List.mem_of_find?_eq_some hfound)
  rw [direct, hfind]
  simp [hfirst]

/-! ### The routes of a server -/

/-- The route to an endpoint takes its method and its path. -/
theorem takes_methodsFor (own method : Config.Method) :
    (methodsFor own).contains method.word = decide (own = method) := by
  cases own <;> cases method <;> decide

theorem Route.isPlain_health : Route.health.IsPlain "/health" := rfl

/-- What the route to an endpoint without parameters is. -/
theorem Route.ofEndpoint_of_plain {registry : Endpoints} {e : Config.Endpoint} {route : Route}
    (h : ofEndpoint registry e = .ok route) (hplain : '\x7b' ∉ e.path.toList) :
    ∃ entry, registry.lookup e.name = some entry ∧ route.IsPlain e.path ∧
      route.methods = methodsFor e.method ∧ route.target = .endpoint e.method entry := by
  obtain ⟨entry, pattern, hentry, hpattern, rfl⟩ := ofEndpoint_eq_ok h
  rw [Pattern.read_of_plain hplain] at hpattern
  exact ⟨entry, hentry, (Except.ok.inj hpattern).symm, rfl, rfl⟩

/-- A route without parameters takes the requests of its method for its path. -/
theorem Route.takes_of_isPlain {route : Route} {own : String} {method : Config.Method}
    (h : route.IsPlain own) (hmethods : route.methods = methodsFor method)
    (wanted : Config.Method) (path : String) :
    route.takes wanted.word path = true ↔ method = wanted ∧ Follows path own := by
  rw [takes, accepts_of_isPlain h, hmethods, takes_methodsFor]
  simp [and_comm]

theorem Route.takes_health (wanted : Config.Method) (path : String) :
    Route.health.takes wanted.word path = true ↔ wanted = .get ∧ Follows path "/health" := by
  have hmethods : Route.health.methods = methodsFor .get := rfl
  rw [takes_of_isPlain isPlain_health hmethods wanted path, eq_comm]

theorem Route.takes_ofEndpoint {registry : Endpoints} {e : Config.Endpoint} {route : Route}
    (h : ofEndpoint registry e = .ok route) (hplain : '\x7b' ∉ e.path.toList)
    (wanted : Config.Method) (path : String) :
    route.takes wanted.word path = true ↔ e.method = wanted ∧ Follows path e.path := by
  obtain ⟨-, -, hown, hmethods, -⟩ := ofEndpoint_of_plain h hplain
  exact takes_of_isPlain hown hmethods wanted path

/-- Of two endpoints with different names, no entry is that of both. -/
theorem name_eq_of_target {registry : Endpoints} {e other : Config.Endpoint} {route : Route}
    {entry : Entry (Chain.Handler Leaf)} (hof : Route.ofEndpoint registry other = .ok route)
    (hentry : registry.lookup e.name = some entry)
    (htarget : route.target = .endpoint e.method entry) : other.name = e.name := by
  obtain ⟨entry', pattern, hentry', -, rfl⟩ := Route.ofEndpoint_eq_ok hof
  obtain ⟨-, rfl⟩ := Target.endpoint.inj htarget
  rw [← Registry.lookup_name hentry', Registry.lookup_name hentry]

namespace App

variable {site : Site} {server : Config.Server} {registry : Endpoints} {app : App}
  {log : List LogLine}

/-- An endpoint before another one has another name and another route. -/
theorem apart_of_before (hserver : Config.Server.ambiguity [] [] server.endpoints = none)
    {earlier later : List Config.Endpoint} {e : Config.Endpoint}
    (hsplit : server.endpoints = earlier ++ e :: later) {other : Config.Endpoint}
    (hother : other ∈ earlier) :
    other.name ≠ e.name ∧ (other.method, other.path) ≠ (e.method, e.path) := by
  have hnames := Config.Server.names_nodup hserver
  have hroutes := Config.Server.routes_nodup hserver
  rw [hsplit, List.map_append, List.map_cons] at hnames hroutes
  exact ⟨(List.nodup_append.mp hnames).2.2 _ (List.mem_map_of_mem hother) _ List.mem_cons_self,
    (List.nodup_append.mp hroutes).2.2 _ (List.mem_map_of_mem hother) _ List.mem_cons_self⟩

/-- A request with the method and the path of an endpoint goes to the first route that takes it, among
those to the health of the server, to the endpoints before and to the endpoint itself. -/
theorem direct_own (hcreate : create site server registry = (.ok app, log))
    (hplain : ∀ e ∈ server.endpoints, '\x7b' ∉ e.path.toList)
    {earlier later : List Config.Endpoint} {e : Config.Endpoint}
    (hsplit : server.endpoints = earlier ++ e :: later) :
    ∃ before route, earlier.mapM (Route.ofEndpoint app.registry) = .ok before ∧
      Route.ofEndpoint app.registry e = .ok route ∧
      direct app.routes e.method.word e.path
        = .route (((Route.health :: before).find? (·.takes e.method.word e.path)).getD route).target := by
  obtain ⟨-, -, routes, -, -, hroutes, happ⟩ := create_eq_ok hcreate
  rw [hsplit] at hroutes hplain
  obtain ⟨before, route, after, rfl, hbefore, hroute, -⟩ := mapM_append_cons_eq_ok.mp hroutes
  obtain ⟨hplainBefore, hplainOwn⟩ := List.forall_mem_append.mp hplain
  have hown := hplainOwn e List.mem_cons_self
  have hover : ∀ r ∈ (.health :: before) ++ [route], r.overflows e.path = false := by
    intro r hr
    rcases List.mem_append.mp hr with hr | hr
    · rcases List.mem_cons.mp hr with rfl | hr
      · exact Route.overflows_of_isPlain Route.isPlain_health e.path
      · obtain ⟨other, hother, hof⟩ := mem_of_mapM hbefore hr
        obtain ⟨-, -, hplain, -⟩ := Route.ofEndpoint_of_plain hof (hplainBefore other hother)
        exact Route.overflows_of_isPlain hplain e.path
    · obtain rfl := List.mem_singleton.mp hr
      obtain ⟨-, -, hplain, -⟩ := Route.ofEndpoint_of_plain hroute hown
      exact Route.overflows_of_isPlain hplain e.path
  have htakes := (Route.takes_ofEndpoint hroute hown e.method e.path).mpr ⟨rfl, .inl rfl⟩
  refine ⟨before, route, hbefore, hroute, ?_⟩
  rw [happ, ← List.cons_append]
  exact direct_append hover htakes

/-- The route to the health of the server is tried first. -/
theorem direct_health (hcreate : create site server registry = (.ok app, log))
    (hplain : ∀ e ∈ server.endpoints, '\x7b' ∉ e.path.toList) {e : Config.Endpoint}
    (he : e ∈ server.endpoints) (hget : e.method = .get) (hpath : Follows e.path "/health") :
    direct app.routes e.method.word e.path = .route .health := by
  obtain ⟨earlier, later, hsplit⟩ := List.append_of_mem he
  obtain ⟨before, route, -, -, hdirect⟩ := direct_own hcreate hplain hsplit
  have hfound : (Route.health :: before).find? (·.takes e.method.word e.path) = some .health :=
    List.find?_cons_of_pos ((Route.takes_health e.method e.path).mpr ⟨hget, hpath⟩)
  rw [hdirect, hfound]
  rfl

/-- **Endpoints are reached.** Where settings whose paths have no parameters make a server, a request with
the method and the path of an endpoint goes to the entry that was made from this endpoint, unless the
route to the health of the server takes it, or that to an earlier endpoint of the method, whose path with
a line feed behind it is the path of the endpoint. Settings that were read are not ambiguous
(`Config.Server.unambiguous_of_read`). -/
theorem direct_own_iff (hserver : Config.Server.ambiguity [] [] server.endpoints = none)
    (hcreate : create site server registry = (.ok app, log))
    (hplain : ∀ e ∈ server.endpoints, '\x7b' ∉ e.path.toList)
    {earlier later : List Config.Endpoint} {e : Config.Endpoint}
    (hsplit : server.endpoints = earlier ++ e :: later) :
    ∃ entry, site.entryFor server e = .ok entry ∧ app.registry.lookup e.name = some entry ∧
      (direct app.routes e.method.word e.path = .route (.endpoint e.method entry) ↔
        ¬ (e.method = .get ∧ Follows e.path "/health") ∧
          ∀ other ∈ earlier, other.method = e.method → e.path ≠ other.path ++ "\n") ∧
      (e.method = .get → Follows e.path "/health" →
        direct app.routes e.method.word e.path = .route .health) := by
  have he : e ∈ server.endpoints := by simp [hsplit]
  obtain ⟨-, lines, -, -, hbuild, -, -⟩ := create_eq_ok hcreate
  obtain ⟨entry, hfor, hlookup⟩ := Site.build_lookup hbuild (Config.Server.names_nodup hserver) he
  obtain ⟨before, route, hbefore, hroute, hdirect⟩ := direct_own hcreate hplain hsplit
  have hplainBefore : ∀ other ∈ earlier, '\x7b' ∉ other.path.toList :=
    fun other hother => hplain other (by simp [hsplit, hother])
  refine ⟨entry, hfor, hlookup, ?_, direct_health hcreate hplain he⟩
  by_cases hget : e.method = .get ∧ Follows e.path "/health"
  · -- the route to the health of the server takes the request, and it leads to no endpoint
    rw [direct_health hcreate hplain he hget.1 hget.2]
    simp [hget]
  have hpassed : (Route.health :: before).find? (·.takes e.method.word e.path)
      = before.find? (·.takes e.method.word e.path) :=
    List.find?_cons_of_neg (mt (Route.takes_health e.method e.path).mp hget)
  rw [hdirect, hpassed]
  cases hfound : before.find? (·.takes e.method.word e.path) with
  | none =>
    obtain ⟨entry', hentry', -, -, htarget⟩ := Route.ofEndpoint_of_plain hroute (hplain e he)
    obtain rfl : entry = entry' := Option.some.inj (hlookup.symm.trans hentry')
    refine iff_of_true (congrArg Direction.route htarget) ⟨hget, fun other hother hmethod hfeed => ?_⟩
    obtain ⟨r, hr, hof⟩ := exists_mem_of_mapM hbefore hother
    exact List.find?_eq_none.mp hfound r hr <|
      (Route.takes_ofEndpoint hof (hplainBefore other hother) e.method e.path).mpr
        ⟨hmethod, .inr hfeed⟩
  | some r =>
    obtain ⟨other, hother, hof⟩ := mem_of_mapM hbefore (List.mem_of_find?_eq_some hfound)
    obtain ⟨hname, hroutes⟩ := apart_of_before hserver hsplit hother
    have htakes : r.takes e.method.word e.path = true := by
      simpa using List.find?_some hfound
    obtain ⟨hmethod, hfollows⟩ :=
      (Route.takes_ofEndpoint hof (hplainBefore other hother) e.method e.path).mp htakes
    refine iff_of_false (fun hsame => hname ?_) fun h => ?_
    · exact name_eq_of_target hof hlookup (Direction.route.inj hsame)
    · -- the other one has not the same route, so its path lacks the line feed
      refine h.2 other hother hmethod (hfollows.resolve_left fun hpath => hroutes ?_)
      rw [hmethod, hpath]

/-! ### A server with endpoints at the path of its health -/

/-- An endpoint that is asked for at the path of the health of the server. -/
def statusEndpoint (name : String) (method : Config.Method) : Config.Endpoint :=
  ⟨name, "", "/health", method, none, none, .tool ⟨"look", "ask", [], 1.0⟩⟩

/-- The relay with two such endpoints, one to read and one to write. -/
def statusServer : Config.Server :=
  { Relay.server none with
    endpoints := [statusEndpoint "status" .get, statusEndpoint "report" .post] }

theorem statusServer_unambiguous :
    Config.Server.ambiguity [] [] statusServer.endpoints = none := by
  simp [statusServer, statusEndpoint, Config.Server.ambiguity]

theorem statusServer_plain : ∀ e ∈ statusServer.endpoints, '\x7b' ∉ e.path.toList := by
  simp [statusServer, statusEndpoint]

theorem exists_statusServer :
    ∃ app log, create Relay.site statusServer .empty = (.ok app, log) := by
  have hcalls : Config.checkCalls statusServer.endpoints = .ok [] := by
    simp [statusServer, statusEndpoint, Config.checkCalls, Config.chains, Config.unknownCall,
      Config.callGraph, Config.findCycle?, Config.visitAll]
  obtain ⟨built, lines, hbuild⟩ : ∃ built lines,
      Relay.site.build statusServer .empty = (.ok built, lines) := ⟨_, _, rfl⟩
  exact exists_create hcalls hbuild (Config.Server.names_nodup statusServer_unambiguous)
    fun e he => ⟨_, Pattern.read_of_plain (statusServer_plain e he)⟩

theorem report_reached :
    Config.Server.ambiguity [] [] statusServer.endpoints = none ∧
      (∀ e ∈ statusServer.endpoints, '\x7b' ∉ e.path.toList) ∧
      statusServer.endpoints = [statusEndpoint "status" .get] ++ statusEndpoint "report" .post :: [] ∧
      ∃ app log, create Relay.site statusServer .empty = (.ok app, log) ∧
        ∃ entry, app.registry.lookup "report" = some entry ∧
          direct app.routes "POST" "/health" = .route (.endpoint .post entry) := by
  obtain ⟨app, log, hcreate⟩ := exists_statusServer
  refine ⟨statusServer_unambiguous, statusServer_plain, rfl, app, log, hcreate, ?_⟩
  obtain ⟨entry, -, hentry, hown, -⟩ :=
    direct_own_iff statusServer_unambiguous hcreate statusServer_plain
      (rfl : _ = [statusEndpoint "status" .get] ++ statusEndpoint "report" .post :: [])
  exact ⟨entry, hentry, hown.mpr ⟨by simp [statusEndpoint], by simp [statusEndpoint]⟩⟩

/-- The endpoint that reads is never reached: a request with its method and its path goes to the health of
the server. -/
theorem status_unreached :
    Config.Server.ambiguity [] [] statusServer.endpoints = none ∧
      (∀ e ∈ statusServer.endpoints, '\x7b' ∉ e.path.toList ∧ '\x7d' ∉ e.path.toList) ∧
      ∃ app log, create Relay.site statusServer .empty = (.ok app, log) ∧
        ∃ e ∈ statusServer.endpoints, ∃ entry, app.registry.lookup e.name = some entry ∧
          direct app.routes e.method.word e.path = .route .health ∧
          direct app.routes e.method.word e.path ≠ .route (.endpoint e.method entry) := by
  obtain ⟨app, log, hcreate⟩ := exists_statusServer
  obtain ⟨-, lines, -, -, hbuild, -, -⟩ := create_eq_ok hcreate
  have hstatus : statusEndpoint "status" .get ∈ statusServer.endpoints := List.mem_cons_self
  obtain ⟨entry, -, hentry⟩ :=
    Site.build_lookup hbuild (Config.Server.names_nodup statusServer_unambiguous) hstatus
  have hhealth := direct_health hcreate statusServer_plain hstatus rfl (.inl rfl)
  exact ⟨statusServer_unambiguous, by simp [statusServer, statusEndpoint], app, log, hcreate,
    statusEndpoint "status" .get, hstatus, entry, hentry, hhealth, by simp [hhealth]⟩

end App

end Switchboard.Http
