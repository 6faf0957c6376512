import Switchboard.Proofs.Chain.Step
import Switchboard.Proofs.Config.Accepted
import Switchboard.Proofs.Registry
import Switchboard.Handlers.Build

/-!
The registry that is built from settings: each endpoint is found by its name, with its own handler and
its own schemas.

* `entryFor_spec` — an entry has the name, the handler and the schemas of its endpoint;
* `accepts_of_admits`, `admits_of_accepts` — an entry admits what is accepted by the schema that the
  settings give;
* `build_lookup` — where no two endpoints share a name, each is found by its name after the build;
* `build_closed` — where all steps name known endpoints, the endpoints of the settings call each other
  only.

`Relay` is a small server, with a tool under a chain under a chain, for the examples of other modules.
-/
namespace Switchboard

/-- A schema of the settings, if there is one, has nothing against a value. -/
def Config.Accepts (source : Option Value) (v : Value) : Prop :=
  ∀ d, source = some d → ∃ schema, Schema.compile d = .ok (some schema) ∧ schema.reports v = .ok []

/-- Without a schema everything is accepted. -/
theorem Config.accepts_none (v : Value) : Config.Accepts none v := by
  intro d hd
  exact absurd hd (by simp)

namespace Site

variable {site : Site} {server : Config.Server}

/-- An entry has the name, the handler and the schemas of its endpoint. -/
theorem entryFor_spec {e : Config.Endpoint} {entry : Entry (Chain.Handler Leaf)}
    (h : site.entryFor server e = .ok entry) :
    entry.name = e.name ∧ site.handlerFor server e = .ok entry.handler ∧
      compileSchema (.inputSchema e.name) e.inputSchema = .ok entry.input ∧
      compileSchema (.outputSchema e.name) e.outputSchema = .ok entry.output := by
  obtain ⟨handler, hhandler, h⟩ := bind_eq_ok.mp h
  obtain ⟨input, hinput, h⟩ := bind_eq_ok.mp h
  obtain ⟨output, houtput, h⟩ := bind_eq_ok.mp h
  obtain rfl : ⟨e.name, handler, input, output⟩ = entry := Except.ok.inj h
  exact ⟨rfl, hhandler, hinput, houtput⟩

/-- Only a chain has a chain as its handler. -/
theorem handler_eq_chain {e : Config.Endpoint} {c : Config.Chain}
    (h : site.handlerFor server e = .ok (.chain c)) : e.handler = .chain c := by
  rw [handlerFor] at h
  cases hhandler : e.handler with
  | chain c' =>
    simp only [hhandler, pure, Except.pure, Except.ok.injEq, Chain.Handler.chain.injEq] at h
    rw [h]
  | prompt p =>
    simp only [hhandler] at h
    obtain ⟨agent, -, h⟩ := bind_eq_ok.mp h
    exact absurd h (by simp [pure, Except.pure])
  | function f =>
    simp only [hhandler] at h
    obtain ⟨symbol, -, h⟩ := bind_eq_ok.mp h
    cases symbol <;> simp [pure, Except.pure, throw, throwThe, MonadExceptOf.throw] at h
  | tool t =>
    simp only [hhandler] at h
    cases hcommand : site.commandOf t.command <;>
      simp [hcommand, pure, Except.pure, throw, throwThe, MonadExceptOf.throw] at h

/-- A chain is its own handler. -/
theorem handlerFor_chain {e : Config.Endpoint} {c : Config.Chain} (h : e.handler = .chain c) :
    site.handlerFor server e = .ok (.chain c) := by
  rw [handlerFor, h]
  rfl

/-- A schema of the settings is compiled as it stands. -/
theorem compileSchema_some {fault : BuildError} {source : Value} {schema : Option Schema}
    (h : compileSchema fault (some source) = .ok schema) :
    ∃ s, schema = some s ∧ Schema.compile source = .ok (some s) := by
  rw [compileSchema.eq_def] at h
  -- the compiler gets a name of its own here, since the kernel would otherwise run it on `source`
  obtain ⟨compile, hcompile⟩ : ∃ f, f = Schema.compile := ⟨_, rfl⟩
  rw [← hcompile] at h ⊢
  cases hresult : compile source with
  | error why => simp [hresult] at h
  | ok compiled =>
    cases compiled with
    | none => simp [hresult] at h
    | some s =>
      simp only [hresult, Except.ok.injEq] at h
      exact ⟨s, h.symm, rfl⟩

/-- What a compiled schema admits is accepted by the schema of the settings. -/
theorem accepts_of_admits {fault : BuildError} {source : Option Value} {schema : Option Schema}
    (h : compileSchema fault source = .ok schema) {v : Value} (hv : Chain.Admits schema v) :
    Config.Accepts source v := by
  rintro d rfl
  obtain ⟨s, hs, hcompile⟩ := compileSchema_some h
  exact ⟨s, hcompile, hv s hs⟩

/-- What the schema of the settings accepts is admitted after it was compiled. -/
theorem admits_of_accepts {fault : BuildError} {source : Option Value} {schema : Option Schema}
    (h : compileSchema fault source = .ok schema) {v : Value} (hv : Config.Accepts source v) :
    Chain.Admits schema v := by
  cases source with
  | none =>
    obtain rfl : none = schema := Except.ok.inj h
    exact Chain.admits_none v
  | some d =>
    obtain ⟨s, rfl, hcompile⟩ := compileSchema_some h
    obtain ⟨s', hcompile', hreports⟩ := hv d rfl
    obtain rfl : s = s' := Option.some.inj (Except.ok.inj (hcompile.symm.trans hcompile'))
    exact Chain.admits_some.mpr hreports

/-! ### The build -/

theorem registerAll_cons {e : Config.Endpoint} {rest : List Config.Endpoint}
    {registry built : Endpoints} {log log' : List LogLine}
    (h : site.registerAll server (e :: rest) registry log = (.ok built, log')) :
    ∃ entry, site.entryFor server e = .ok entry ∧
      site.registerAll server rest (registry.register entry) (log ++ [registered e])
        = (.ok built, log') := by
  rw [registerAll] at h
  cases hentry : site.entryFor server e with
  | error why => simp [hentry] at h
  | ok entry =>
    rw [hentry] at h
    exact ⟨entry, rfl, h⟩

theorem registerAll_lookup_of_notMem {endpoints : List Config.Endpoint} {registry built : Endpoints}
    {log log' : List LogLine}
    (h : site.registerAll server endpoints registry log = (.ok built, log')) {name : String}
    (hname : name ∉ endpoints.map (·.name)) : built.lookup name = registry.lookup name := by
  induction endpoints generalizing registry log with
  | nil =>
    rw [registerAll, Prod.mk.injEq, Except.ok.injEq] at h
    rw [h.1]
  | cons e rest ih =>
    obtain ⟨entry, hentry, hrest⟩ := registerAll_cons h
    simp only [List.map_cons, List.mem_cons, not_or] at hname
    rw [ih hrest hname.2, Registry.lookup_register, (entryFor_spec hentry).1,
      if_neg (Ne.symm hname.1)]

theorem registerAll_lookup {endpoints : List Config.Endpoint} {registry built : Endpoints}
    {log log' : List LogLine}
    (h : site.registerAll server endpoints registry log = (.ok built, log'))
    (hnames : (endpoints.map (·.name)).Nodup) {e : Config.Endpoint} (he : e ∈ endpoints) :
    ∃ entry, site.entryFor server e = .ok entry ∧ built.lookup e.name = some entry := by
  induction endpoints generalizing registry log with
  | nil => simp at he
  | cons first rest ih =>
    obtain ⟨entry, hentry, hrest⟩ := registerAll_cons h
    simp only [List.map_cons, List.nodup_cons] at hnames
    rcases List.mem_cons.mp he with rfl | he
    · -- nothing registered later has the name of the first endpoint
      refine ⟨entry, hentry, ?_⟩
      rw [registerAll_lookup_of_notMem hrest hnames.1, Registry.lookup_register,
        if_pos (entryFor_spec hentry).1]
    · exact ih hrest hnames.2 he

theorem inOrder_perm (endpoints : List Config.Endpoint) : (inOrder endpoints).Perm endpoints := by
  have h := List.filter_append_perm (fun e : Config.Endpoint => !e.isChain) endpoints
  simpa [inOrder] using h

/-- Each endpoint is found by its name after the build. -/
theorem build_lookup {registry built : Endpoints} {log : List LogLine}
    (h : site.build server registry = (.ok built, log))
    (hnames : (server.endpoints.map (·.name)).Nodup) {e : Config.Endpoint}
    (he : e ∈ server.endpoints) :
    ∃ entry, site.entryFor server e = .ok entry ∧ built.lookup e.name = some entry := by
  have hperm := inOrder_perm server.endpoints
  exact registerAll_lookup h ((hperm.map _).nodup_iff.mpr hnames) (hperm.mem_iff.mpr he)

/-- What is found by the name of an endpoint was made from it. -/
theorem entryFor_of_lookup {registry built : Endpoints} {log : List LogLine}
    (h : site.build server registry = (.ok built, log))
    (hnames : (server.endpoints.map (·.name)).Nodup) {e : Config.Endpoint}
    (he : e ∈ server.endpoints) {entry : Entry (Chain.Handler Leaf)}
    (hentry : built.lookup e.name = some entry) : site.entryFor server e = .ok entry := by
  obtain ⟨entry', hfor, hlookup⟩ := build_lookup h hnames he
  obtain rfl : entry = entry' := Option.some.inj (hentry.symm.trans hlookup)
  exact hfor

/-- A chain is found by its name only if the settings have it under that name. -/
theorem handler_of_lookup {registry built : Endpoints} {log : List LogLine}
    (h : site.build server registry = (.ok built, log))
    (hnames : (server.endpoints.map (·.name)).Nodup) {e : Config.Endpoint}
    (he : e ∈ server.endpoints) {entry : Entry (Chain.Handler Leaf)}
    (hentry : built.lookup e.name = some entry) {c : Config.Chain}
    (hc : entry.handler = .chain c) : e.handler = .chain c := by
  have hhandler := (entryFor_spec (entryFor_of_lookup h hnames he hentry)).2.1
  rw [hc] at hhandler
  exact handler_eq_chain hhandler

/-- After the build, the endpoints of settings whose steps are all known call each other only. -/
theorem build_closed {registry built : Endpoints} {log : List LogLine}
    (h : site.build server registry = (.ok built, log))
    (hnames : (server.endpoints.map (·.name)).Nodup)
    (hknown : Config.AllKnown server.endpoints) :
    Chain.Closed built (server.endpoints.map (·.name)) := by
  refine ⟨fun name hname => ?_, fun name hname entry hentry c hc => ?_⟩
  · obtain ⟨e, he, rfl⟩ := List.mem_map.mp hname
    obtain ⟨entry, -, hlookup⟩ := build_lookup h hnames he
    exact ⟨entry, hlookup⟩
  · obtain ⟨e, he, rfl⟩ := List.mem_map.mp hname
    exact hknown e he c (handler_of_lookup h hnames he hentry hc)

end Site

/-! ### A small server -/

namespace Relay

/-- A place without files and functions, in which every command answers with an empty mapping. -/
def site : Site :=
  { directory := .read "/"
    homes := []
    disk := ⟨.read "/", []⟩
    environment := []
    library := ⟨[], []⟩
    command := fun _ _ => some fun _ => .success ['\x7b', '\x7d'] }

/-- A chain of endpoints that all get the input of the chain. -/
def handlerTo (endpoints : List String) : Config.Handler :=
  .chain ⟨endpoints.map fun endpoint => ⟨none, endpoint, .str "\x7b\x7binput\x7d\x7d"⟩, .null⟩

/-- A tool, a chain that asks it, and a chain that asks both; `schema` is what the tool takes. -/
def server (schema : Option Value) : Config.Server :=
  { host := "127.0.0.1"
    port := 3000
    logLevel := "info"
    defaultModel := none
    defaultBaseUrl := none
    defaultApiKey := none
    endpoints :=
      [⟨"outer", "", "/outer", .post, none, none, handlerTo ["inner", "tool"]⟩,
        ⟨"inner", "", "/inner", .post, none, none, handlerTo ["tool"]⟩,
        ⟨"tool", "", "/tool", .post, schema, none, .tool ⟨"look", "ask", [], 1.0⟩⟩]
    directory := .read "/" }

theorem server_unambiguous (schema : Option Value) :
    Config.Server.ambiguity [] [] (server schema).endpoints = none := by
  simp [server, Config.Server.ambiguity]

theorem server_calls (schema : Option Value) :
    Config.checkCalls (server schema).endpoints
      = .ok [("outer", ["inner", "tool"]), ("inner", ["tool"])] := by
  simp [server, handlerTo, Config.checkCalls, Config.chains, Config.unknownCall,
    Config.unknownStep, Config.callGraph, Config.findCycle?, Config.visitAll, Config.visit,
    Config.CallGraph.insert, Config.CallGraph.targets, Config.distinct, List.lookup_cons]

end Relay

end Switchboard
