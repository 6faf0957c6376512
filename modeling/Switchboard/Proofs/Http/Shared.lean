import Switchboard.Proofs.Http.App

/-!
A server that is made on a registry which others hold too.

* `Site.registerInto`, `App.createInto` — the same as `registerAll` and `create`, in a registry that is
  changed in place and keeps what was registered before a failure;
* `createInto_fst`, `createInto_snd` — the outcome is the same, and a server has the registry as it is
  left;
* `createInto_of_calls` — where the calls between endpoints are refused, nothing was registered.
-/
namespace Switchboard

namespace Site

variable {site : Site} {server : Config.Server}

/-- Registers endpoints one after the other: whether all of them could be registered, and the registry
after the last one that was. -/
def registerInto (site : Site) (server : Config.Server) :
    List Config.Endpoint → Endpoints → Except BuildError Unit × Endpoints
  | [], registry => (.ok (), registry)
  | e :: rest, registry =>
    match site.entryFor server e with
    | .error why => (.error why, registry)
    | .ok entry => site.registerInto server rest (registry.register entry)

/-- `registerAll` gives the registry as `registerInto` leaves it. -/
theorem registerAll_fst (site : Site) (server : Config.Server) (endpoints : List Config.Endpoint)
    (registry : Endpoints) (log : List LogLine) :
    (site.registerAll server endpoints registry log).1
      = (site.registerInto server endpoints registry).1.map
          fun _ => (site.registerInto server endpoints registry).2 := by
  induction endpoints generalizing registry log with
  | nil => rfl
  | cons e rest ih =>
    rw [registerAll, registerInto]
    cases site.entryFor server e with
    | error why => rfl
    | ok entry => exact ih _ _

end Site

namespace Http.App

variable {site : Site} {server : Config.Server} {registry : Endpoints}

/-- Makes a server on a registry: what came of it, and what the registry holds then. -/
def createInto (site : Site) (server : Config.Server) (registry : Endpoints) :
    Except StartError App × Endpoints :=
  match (checkCalls server).1 with
  | .error e => (.error e, registry)
  | .ok _ =>
    match site.registerInto server (Site.inOrder server.endpoints) registry with
    | (.error e, registry) => (.error (.build e), registry)
    | (.ok (), registry) =>
      match server.endpoints.mapM (Route.ofEndpoint registry) with
      | .error e => (.error e, registry)
      | .ok routes => (.ok ⟨registry, .health :: routes⟩, registry)

/-- The outcome is that of `create`. -/
theorem createInto_fst (site : Site) (server : Config.Server) (registry : Endpoints) :
    (createInto site server registry).1 = (create site server registry).1 := by
  have hbuild := Site.registerAll_fst site server (Site.inOrder server.endpoints) registry []
  rw [createInto, create, Site.build]
  rcases checkCalls server with ⟨e | g, lines⟩
  · rfl
  · rcases hall : site.registerAll server (Site.inOrder server.endpoints) registry [] with
      ⟨outcome, built⟩
    rcases hinto : site.registerInto server (Site.inOrder server.endpoints) registry with ⟨done, after⟩
    rw [hall, hinto] at hbuild
    obtain rfl : outcome = done.map fun _ => after := hbuild
    cases done with
    | error e => rfl
    | ok =>
      simp only [Except.map]
      cases server.endpoints.mapM (Route.ofEndpoint after) <;> rfl

/-- What keeps a route from being made is not that calls are refused. -/
theorem ofEndpoint_ne_calls {registry : Endpoints} {endpoint : Config.Endpoint} {why : StartError}
    (h : Route.ofEndpoint registry endpoint = .error why) (e : Config.CallError) :
    why ≠ .calls e := by
  rintro rfl
  rw [Route.ofEndpoint] at h
  split at h
  · simp at h
  · split at h <;> simp at h

/-- Making a server ends before anything is registered, when the calls are refused; or it fails for
another reason; or there is a server with the registry as it is left. -/
theorem createInto_cases (site : Site) (server : Config.Server) (registry : Endpoints) :
    (∃ e, createInto site server registry = (.error (.calls e), registry)) ∨
      (∃ why after, createInto site server registry = (.error why, after) ∧ ∀ e, why ≠ .calls e) ∨
        ∃ app, createInto site server registry = (.ok app, app.registry) := by
  rw [createInto, checkCalls]
  cases Config.checkCalls server.endpoints with
  | error e => exact .inl ⟨e, rfl⟩
  | ok g =>
    rcases site.registerInto server (Site.inOrder server.endpoints) registry with ⟨why | _, after⟩
    · exact .inr (.inl ⟨_, _, rfl, by simp⟩)
    · dsimp only
      cases hroutes : server.endpoints.mapM (Route.ofEndpoint after) with
      | error why =>
        obtain ⟨endpoint, -, hfails⟩ := exists_of_mapM_error hroutes
        exact .inr (.inl ⟨_, _, rfl, ofEndpoint_ne_calls hfails⟩)
      | ok routes => exact .inr (.inr ⟨_, rfl⟩)

/-- A server has the registry as it is left. -/
theorem createInto_snd {app : App} (h : (createInto site server registry).1 = .ok app) :
    (createInto site server registry).2 = app.registry := by
  rcases createInto_cases site server registry with ⟨e, heq⟩ | ⟨why, after, heq, -⟩ | ⟨app', heq⟩
  · simp [heq] at h
  · simp [heq] at h
  · rw [heq] at h ⊢
    obtain rfl := Except.ok.inj h
    rfl

/-- Where the calls between endpoints are refused, the registry is left as it was. -/
theorem createInto_of_calls {e : Config.CallError}
    (h : (createInto site server registry).1 = .error (.calls e)) :
    (createInto site server registry).2 = registry := by
  rcases createInto_cases site server registry with ⟨e', heq⟩ | ⟨why, after, heq, hne⟩ | ⟨app, heq⟩
  · rw [heq]
  · rw [heq] at h
    exact absurd (Except.error.inj h) (hne e)
  · simp [heq] at h

end Http.App

end Switchboard
