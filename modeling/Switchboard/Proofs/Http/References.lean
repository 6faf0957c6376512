import Switchboard.Proofs.Chain.Lookup
import Switchboard.Proofs.Http.Answer
import Switchboard.Proofs.Http.Shared

/-!
The references between endpoints hold while a server runs.

* `Leaf.function_of_raises` — of the leaves of a server only a function can say that an endpoint is
  missing;
* `serve_finds_endpoints` — no request comes to a step whose endpoint is missing, at any depth, and where
  the references do not hold, nothing is registered.

The check of the settings, the build and the routes come together here: steps name endpoints of the
settings (`Config.of_checkCalls_eq_ok`), all of these are registered (`Site.build_closed`), and a request
goes to one of them (`direct_endpoint`). Entries that the registry held before do not matter, as no step
of the settings leads to them.
-/
namespace Switchboard

variable {σ : Type}

/-! ### Leaves -/

/-- No missing endpoint is behind a failure that is not that of a chain. -/
theorem Failure.not_behind_of_not_isOfChain {e : Failure} (h : e.isOfChain = false) (place : Place) :
    ¬ Behind (.unregistered place) e := by
  intro hbehind
  rcases hbehind.eq_or with rfl | ⟨c, hcause, -⟩
  · simp [isOfChain] at h
  · cases e <;> simp [isOfChain, cause?] at h hcause

namespace Leaf

variable {e : Failure}

/-- Asking a model never fails as a chain does. -/
theorem isOfChain_of_ask {service : Service σ} {agent : Prompt.Agent} {schema : Option Value}
    {payload : Value} {state : σ} (h : (ask service agent schema payload state).1 = .error e) :
    e.isOfChain = false := by
  rw [ask] at h
  cases hquestion : Prompt.request payload schema with
  | error why =>
    rw [hquestion] at h
    obtain rfl := Except.error.inj h
    rfl
  | ok question =>
    rw [hquestion] at h
    dsimp only at h
    rcases hservice : service agent question state with ⟨message | reply, after⟩
    · rw [hservice] at h
      obtain rfl := Except.error.inj h
      rfl
    · rw [hservice] at h
      dsimp only at h
      rw [readReply] at h
      split at h
      · obtain ⟨why, -, rfl⟩ := mapError_eq_error.mp h
        rfl
      · simp at h

/-- A tool never fails as a chain does. -/
theorem isOfChain_of_runTool {t : Config.Tool} {command : List String → Tools.Outcome}
    {payload : Value} (h : runTool t command payload = .error e) : e.isOfChain = false := by
  rcases bind_eq_error.mp h with hquery | ⟨query, -, h⟩
  · obtain ⟨why, -, rfl⟩ := mapError_eq_error.mp hquery
    rfl
  · dsimp only at h
    split at h
    · obtain rfl := Except.error.inj h
      rfl
    · change readOutcome t (command (t.args ++ [query])) = .error e at h
      rw [readOutcome] at h
      split at h
      · obtain rfl := Except.error.inj h
        rfl
      · split at h
        · obtain rfl := Except.error.inj h
          rfl
        · simp at h

/-- Of the leaves of a server only a function can say that an endpoint is missing. -/
theorem function_of_raises {service : Service σ} {leaf : Leaf} {place : Place}
    (h : Chain.Raises (call service) leaf (.unregistered place)) :
    ∃ f, leaf = .function f ∧ ∃ history payload request e,
      f.call history payload request = .error e ∧ Failure.Behind (.unregistered place) e := by
  obtain ⟨history, payload, request, state, e, herror, hbehind⟩ := h
  cases leaf with
  | prompt agent schema =>
    exact absurd hbehind (Failure.not_behind_of_not_isOfChain (isOfChain_of_ask herror) place)
  | function f => exact ⟨f, rfl, history, payload, request, e, herror, hbehind⟩
  | tool t command =>
    exact absurd hbehind (Failure.not_behind_of_not_isOfChain (isOfChain_of_runTool herror) place)

end Leaf

/-! ### Requests -/

namespace Http

variable {site : Site} {server : Config.Server} {registry : Endpoints} {app : App}
  {log : List LogLine}

/-- A request to a server changes nothing, or it comes to a call of an endpoint of the settings. -/
theorem App.serve_calls (hcreate : App.create site server registry = (.ok app, log))
    (leaves : Chain.Leaves Leaf σ) (r : Request) (s : Chain.Session σ) :
    (app.serve leaves r s).2 = s ∨
      ∃ e ∈ server.endpoints, ∃ entry payload, app.registry.lookup e.name = some entry ∧
        payload? e.method r = some payload ∧
          app.serve leaves r s = answerCall (Chain.call leaves app.registry) entry payload s := by
  rcases app.serve_cases leaves r s with ⟨hstill, -⟩ | ⟨method, entry, hdirect, hserve⟩
  · exact .inl hstill
  · obtain ⟨e, he, rfl, hentry⟩ := direct_endpoint hcreate hdirect
    rcases answer_cases (Chain.call leaves app.registry) e.method entry r s with
      ⟨hstill, -⟩ | ⟨payload, hpayload, -, hanswer⟩
    · exact .inl (hserve ▸ hstill)
    · exact .inr ⟨e, he, entry, payload, hentry, hpayload, hserve.trans hanswer⟩

/-- **References hold while a server runs.** Where settings and a registry make a server, a request
changes nothing or calls an endpoint of the settings. Then every step that is taken, in whatever depth
of nested chains, finds its endpoint, and a missing endpoint is behind the failure of the call only if
a leaf of the settings raised such a failure itself, which among the leaves of a server only a function
can do. Where the calls between endpoints are refused, the registry is left as it was. Settings that
were read are not ambiguous (`Config.Server.unambiguous_of_read`). -/
theorem serve_finds_endpoints (site : Site) {server : Config.Server} (registry : Endpoints)
    (hserver : Config.Server.ambiguity [] [] server.endpoints = none) :
    (∀ app log, App.create site server registry = (.ok app, log) →
      ∀ (σ : Type) (leaves : Chain.Leaves Leaf σ) (r : Request) (s : Chain.Session σ),
        (app.serve leaves r s).2 = s ∨
        ∃ e ∈ server.endpoints, ∃ entry payload, app.registry.lookup e.name = some entry ∧
          payload? e.method r = some payload ∧
          app.serve leaves r s = answerCall (Chain.call leaves app.registry) entry payload s ∧
          (∀ step, Chain.Takes leaves app.registry requestValue (Chain.depth app.registry)
            entry.handler payload (s.noted entry.name payload requestValue) step →
              ∃ found, app.registry.lookup step.endpoint = some found) ∧
          ∀ failure t, Chain.invoke (Chain.call leaves app.registry) entry payload requestValue s
              = (.error failure, t) →
            ∀ place, Failure.Behind (.unregistered place) failure →
              ∃ e' ∈ server.endpoints, ∃ leaf, site.handlerFor server e' = .ok (.leaf leaf) ∧
                Chain.Raises leaves leaf (.unregistered place)) ∧
    (∀ (app : App) (σ : Type) (service : Service σ),
      (∀ r s, app.handle service r s = app.serve (Leaf.call service) r s) ∧
      ∀ leaf place, Chain.Raises (Leaf.call service) leaf (.unregistered place) →
        ∃ f, leaf = .function f ∧ ∃ history payload request e,
          f.call history payload request = .error e ∧ Failure.Behind (.unregistered place) e) ∧
    (App.createInto site server registry).1 = (App.create site server registry).1 ∧
    ∀ e log, App.create site server registry = (.error (.calls e), log) →
      (App.createInto site server registry).2 = registry := by
  have hnames := Config.Server.names_nodup hserver
  have houtcome := App.createInto_fst site server registry
  refine ⟨fun app log hcreate σ leaves r s => ?_, fun app σ service =>
    ⟨App.handle_eq_serve app service, fun _ _ => Leaf.function_of_raises⟩, houtcome,
    fun e log hcreate => App.createInto_of_calls (by rw [houtcome, hcreate])⟩
  obtain ⟨g, lines, -, hcalls, hbuild, -, -⟩ := App.create_eq_ok hcreate
  have hclosed := Site.build_closed hbuild hnames (Config.of_checkCalls_eq_ok hcalls).1
  rcases App.serve_calls hcreate leaves r s with
    hstill | ⟨e, he, entry, payload, hentry, hpayload, hserve⟩
  · exact .inl hstill
  · have hname : e.name ∈ server.endpoints.map (·.name) := List.mem_map_of_mem he
    refine .inr ⟨e, he, entry, payload, hentry, hpayload, hserve, fun step hstep => ?_,
      fun failure t hfails place hbehind => ?_⟩
    · exact Chain.takes_registered hclosed hname hentry hstep
    · -- the leaf was made from an endpoint of the settings, not found in the registry before
      obtain ⟨name, hknown, raiser, leaf, hraiser, hleaf, hraises⟩ :=
        Chain.leaf_of_unregistered hclosed hname hentry hfails hbehind
      obtain ⟨e', he', rfl⟩ := List.mem_map.mp hknown
      obtain ⟨-, hhandler, -⟩ :=
        Site.entryFor_spec (Site.entryFor_of_lookup hbuild hnames he' hraiser)
      exact ⟨e', he', leaf, hleaf ▸ hhandler, hraises⟩

/-- A registry with a chain that has lost its endpoint. -/
def abandoned : Endpoints :=
  Registry.register .empty ⟨"left", .chain ⟨[⟨none, "nowhere", .null⟩], .null⟩, none, none⟩

/-- The relay with a chain to an endpoint that is not there. -/
def brokenRelay : Config.Server :=
  { Relay.server none with
    endpoints := [⟨"outer", "", "/outer", .post, none, none, Relay.handlerTo ["nowhere"]⟩] }

/-- The relay finds its endpoints in a registry that holds a chain without its own, and nothing is
registered for the broken relay. -/
theorem relay_finds_endpoints :
    Config.Server.ambiguity [] [] (Relay.server none).endpoints = none ∧
    (∃ app log, App.create Relay.site (Relay.server none) abandoned = (.ok app, log) ∧
      ∀ (service : Service Unit) (r : Request) (s : Chain.Session Unit),
        (app.handle service r s).2 = s ∨
        ∃ e ∈ (Relay.server none).endpoints, ∃ entry payload,
          app.registry.lookup e.name = some entry ∧
          ∀ step, Chain.Takes (Leaf.call service) app.registry requestValue
            (Chain.depth app.registry) entry.handler payload
            (s.noted entry.name payload requestValue) step →
              ∃ found, app.registry.lookup step.endpoint = some found) ∧
    Config.Server.ambiguity [] [] brokenRelay.endpoints = none ∧
    ∃ e log, App.create Relay.site brokenRelay abandoned = (.error (.calls e), log) ∧
      (App.createInto Relay.site brokenRelay abandoned).2 = abandoned := by
  have hrelay := Relay.server_unambiguous none
  have hbroken : Config.Server.ambiguity [] [] brokenRelay.endpoints = none := by
    simp [brokenRelay, Config.Server.ambiguity]
  obtain ⟨built, lines, hbuild⟩ : ∃ built lines,
      Relay.site.build (Relay.server none) abandoned = (.ok built, lines) := ⟨_, _, rfl⟩
  obtain ⟨app, log, hcreate⟩ := App.exists_create_relay hbuild
  obtain ⟨e, log', hrefused⟩ : ∃ e log',
      App.create Relay.site brokenRelay abandoned = (.error (.calls e), log') := ⟨_, _, rfl⟩
  refine ⟨hrelay, ⟨app, log, hcreate, fun service r s => ?_⟩, hbroken, e, log', hrefused,
    (serve_finds_endpoints Relay.site abandoned hbroken).2.2.2 e log' hrefused⟩
  obtain ⟨hrun, hown, -, -⟩ := serve_finds_endpoints Relay.site abandoned hrelay
  rw [(hown app Unit service).1]
  rcases hrun app log hcreate Unit (Leaf.call service) r s with
    hstill | ⟨e, he, entry, payload, hentry, -, -, hfinds, -⟩
  · exact .inl hstill
  · exact .inr ⟨e, he, entry, payload, hentry, hfinds⟩

end Http

end Switchboard
