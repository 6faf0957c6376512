import Switchboard.Proofs.Chain.Enforcement
import Switchboard.Proofs.Config.Accepted
import Switchboard.Proofs.Http.Answer
import Switchboard.Proofs.Http.App

/-!
The schemas of the settings are enforced in every request.

* `Chain.Contract.ofSettings` — what endpoints take and give by their schemas;
* `serve_enforces_schemas` — all that a request does keeps to it, and what is answered with status 200
  is the output of an endpoint that its schema accepts.

A session tells of all calls and of all outputs recorded, those of nested chains included, so the
theorem is about every depth.
-/
namespace Switchboard

/-- What the endpoints of settings take and give by their schemas; without a schema that is
everything. -/
def Chain.Contract.ofSettings (endpoints : List Config.Endpoint) : Contract where
  takes name v := ∃ e ∈ endpoints, e.name = name ∧ Config.Accepts e.inputSchema v
  gives name v := ∃ e ∈ endpoints, e.name = name ∧ Config.Accepts e.outputSchema v

namespace Http

open Relation

variable {site : Site} {server : Config.Server} {registry : Endpoints} {app : App}
  {log : List LogLine}

/-- A change that keeps to the registry of a server keeps to its settings. -/
theorem lawful_ofSettings (hserver : Config.Server.ambiguity [] [] server.endpoints = none)
    (hcreate : App.create site server registry = (.ok app, log)) {σ : Type}
    {leaves : Chain.Leaves Leaf σ} {s t : Chain.Session σ}
    (h : Chain.Lawful (.ofRegistry app.registry (server.endpoints.map (·.name))) leaves app.registry
      s t) :
    Chain.Lawful (.ofSettings server.endpoints) leaves app.registry s t := by
  obtain ⟨g, lines, -, -, hbuild, -, -⟩ := App.create_eq_ok hcreate
  have hnames := Config.Server.names_nodup hserver
  refine h.weaken ?_ ?_
  · rintro name v ⟨hname, entry, hentry, hadmits⟩
    obtain ⟨e, he, rfl⟩ := List.mem_map.mp hname
    obtain ⟨-, -, hinput, -⟩ :=
      Site.entryFor_spec (Site.entryFor_of_lookup hbuild hnames he hentry)
    exact ⟨e, he, rfl, Site.accepts_of_admits hinput hadmits⟩
  · rintro name v ⟨hname, entry, hentry, hadmits⟩
    obtain ⟨e, he, rfl⟩ := List.mem_map.mp hname
    obtain ⟨-, -, -, houtput⟩ :=
      Site.entryFor_spec (Site.entryFor_of_lookup hbuild hnames he hentry)
    exact ⟨e, he, rfl, Site.accepts_of_admits houtput hadmits⟩

/-- **Schemas are enforced in every request.** Whatever a request to a server does is a series of calls
with payloads that the input schemas of their endpoints accept, at any depth, and of records of outputs
that the output schemas accept; so are all calls and outputs that it leaves in the logs. An answer with
status 200 is the text of an output that the output schema of the endpoint accepts, unless it tells of
the health of the server. Settings that were read are not ambiguous
(`Config.Server.unambiguous_of_read`). -/
theorem serve_enforces_schemas
    (hserver : Config.Server.ambiguity [] [] server.endpoints = none)
    (hcreate : App.create site server registry = (.ok app, log)) {σ : Type}
    (leaves : Chain.Leaves Leaf σ) (r : Request) (s : Chain.Session σ) :
    ReflTransGen (Chain.Lawful (.ofSettings server.endpoints) leaves app.registry) s
      (app.serve leaves r s).2 ∧
    Chain.LogsGrow (.ofSettings server.endpoints) s (app.serve leaves r s).2 ∧
    (∀ response, (app.serve leaves r s).1.1 = .ok response → response.status = 200 →
      direct app.routes r.method r.path = .route .health ∨
      ∃ e ∈ server.endpoints, ∃ entry payload output t,
        app.registry.lookup e.name = some entry ∧ payload? e.method r = some payload ∧
        Config.Accepts e.inputSchema (s.history.reveal payload) ∧
        Chain.invoke (Chain.call leaves app.registry) entry payload requestValue s
          = (.ok output, t) ∧
        Config.Accepts e.outputSchema (t.history.reveal output) ∧
        Json.compactText (t.history.reveal output) = .ok response.body) ∧
    ∀ service : Service σ, app.handle service r s = app.serve (Leaf.call service) r s := by
  obtain ⟨g, lines, -, hcalls, hbuild, -, -⟩ := App.create_eq_ok hcreate
  have hnames := Config.Server.names_nodup hserver
  have hclosed := Site.build_closed hbuild hnames (Config.of_checkCalls_eq_ok hcalls).1
  have htrace : ReflTransGen
      (Chain.Lawful (.ofSettings server.endpoints) leaves app.registry) s
      (app.serve leaves r s).2 := by
    rcases app.serve_cases leaves r s with ⟨hstill, -⟩ | ⟨method, entry, hdirect, hserve⟩
    · rw [hstill]
    · obtain ⟨e, he, rfl, hentry⟩ := direct_endpoint hcreate hdirect
      rw [hserve]
      rcases answer_cases (Chain.call leaves app.registry) e.method entry r s with
        ⟨hstill, -⟩ | ⟨payload, -, hadmits, hanswer⟩
      · rw [hstill]
      · rw [hanswer, answerCall_session]
        -- from the schemas of the registry to those of the settings, change by change
        refine ReflTransGen.mono (fun _ _ => lawful_ofSettings hserver hcreate) _ _ ?_
        exact Chain.invoke_lawful hclosed leaves _ (List.mem_map_of_mem he) hentry hadmits
          requestValue
  refine ⟨htrace, Chain.logsGrow_of_lawful htrace, fun response hresponse hstatus => ?_,
    fun service => App.handle_eq_serve app service r s⟩
  rcases app.serve_cases leaves r s with ⟨-, hhealth⟩ | ⟨method, entry, hdirect, hserve⟩
  · exact .inl (hhealth response hresponse hstatus)
  · obtain ⟨e, he, rfl, hentry⟩ := direct_endpoint hcreate hdirect
    obtain ⟨-, -, hinput, houtput⟩ :=
      Site.entryFor_spec (Site.entryFor_of_lookup hbuild hnames he hentry)
    rw [hserve] at hresponse
    rcases answer_cases (Chain.call leaves app.registry) e.method entry r s with
      ⟨-, hrefused⟩ | ⟨payload, hpayload, hadmits, hanswer⟩
    · have := hrefused response hresponse
      omega
    · rw [hanswer] at hresponse
      obtain ⟨output, t, hinvoke, hgives, hbody⟩ := answerCall_ok hresponse hstatus
      exact .inr ⟨e, he, entry, payload, output, t, hentry, hpayload,
        Site.accepts_of_admits hinput hadmits, hinvoke, Site.accepts_of_admits houtput hgives,
        hbody⟩

/-! ### The relay -/

/-- The schema of mappings. -/
def mappingSchema : Value := .object [(.text "type", .str "object")]

theorem relay_builds :
    (Relay.site.build (Relay.server (some mappingSchema)) .empty).1.toBool = true := by
  decide +kernel

/-- The relay with a tool that takes mappings is a server. -/
theorem exists_relay :
    ∃ app log, App.create Relay.site (Relay.server (some mappingSchema)) .empty = (.ok app, log) := by
  have hof : ∀ outcome : Except BuildError Endpoints × List LogLine, outcome.1.toBool = true →
      ∃ built lines, outcome = (.ok built, lines) := by
    rintro ⟨why | built, lines⟩ h
    · simp [Except.toBool] at h
    · exact ⟨built, lines, rfl⟩
  obtain ⟨built, lines, hbuild⟩ := hof _ relay_builds
  exact App.exists_create_relay hbuild

theorem relay_enforces_schemas :
    Config.Server.ambiguity [] [] (Relay.server (some mappingSchema)).endpoints = none ∧
      ∃ app log, App.create Relay.site (Relay.server (some mappingSchema)) .empty = (.ok app, log) ∧
        Chain.LogsGrow (.ofSettings (Relay.server (some mappingSchema)).endpoints)
          (.start ())
          (app.serve (fun _ _ payload _ state => (.ok payload, state))
            ⟨"localhost", "POST", "/outer", "", []⟩ (.start ())).2 := by
  obtain ⟨app, log, hcreate⟩ := exists_relay
  refine ⟨Relay.server_unambiguous _, app, log, hcreate, ?_⟩
  exact (serve_enforces_schemas (Relay.server_unambiguous _) hcreate _ _ _).2.1

end Http

end Switchboard
