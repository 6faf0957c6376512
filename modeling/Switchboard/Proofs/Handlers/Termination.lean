import Switchboard.Proofs.Chain.Depth
import Switchboard.Proofs.Config.Accepted
import Switchboard.Proofs.Handlers.Build

/-!
Every request comes to an end: settings whose calls were accepted give a registry in which chains nest
no deeper than there are chains.

* `build_descends` — the ranks of the settings are ranks of the registry;
* `build_nests_within_chains` — what a handler of the registry answers does not depend on what would
  answer below as many nested chains as the settings have, nor on how much deeper calls might go.
-/
namespace Switchboard.Site

variable {site : Site} {server : Config.Server}

/-- After the build the ranks of endpoints are ranks of what is registered. -/
theorem build_descends {registry built : Endpoints} {log : List LogLine} {rank : String → Nat}
    (hbuild : site.build server registry = (.ok built, log))
    (hnames : (server.endpoints.map (·.name)).Nodup)
    (hrank : Config.IsRank server.endpoints rank) :
    Chain.Descends built (server.endpoints.map (·.name)) rank := by
  intro name hname entry hentry c hc
  obtain ⟨e, he, rfl⟩ := List.mem_map.mp hname
  have hchain := handler_of_lookup hbuild hnames he hentry hc
  exact ⟨hrank.pos e he c hchain, hrank.lt e he c hchain⟩

/-- A registry has at least as many entries as the settings have chains. -/
theorem chains_le_size {built : Endpoints} (hnames : (server.endpoints.map (·.name)).Nodup)
    (hclosed : Chain.Closed built (server.endpoints.map (·.name))) :
    (Config.chains server.endpoints).length ≤ built.size := by
  have hfound : ∀ name ∈ server.endpoints.map (·.name), (built.lookup name).isSome :=
    fun name hname => Option.isSome_iff_exists.mpr (hclosed.registered name hname)
  calc (Config.chains server.endpoints).length ≤ server.endpoints.length :=
        List.length_filterMap_le _ _
    _ = (server.endpoints.map (·.name)).length := (List.length_map _).symm
    _ ≤ built.size := Registry.size_ge hnames hfound

/-- **Every request comes to an end.** Where the calls between the endpoints of a server are accepted,
there is a rank that goes down from each chain to the endpoints of its steps and is nowhere higher than
there are chains. In the registry that is built from the settings a handler nests no deeper than its
rank: whatever would answer below, and however much deeper calls might go, it answers as with the depth
of all chains, which is also the answer when it is called without a bound of one's own. Settings that
were read are not ambiguous (`Config.Server.unambiguous_of_read`). -/
theorem build_nests_within_chains {g : Config.CallGraph}
    (hserver : Config.Server.ambiguity [] [] server.endpoints = none)
    (hcalls : Config.checkCalls server.endpoints = .ok g) :
    ∃ rank : String → Nat,
      (∀ e ∈ server.endpoints, ∀ c, e.handler = .chain c → ∀ step ∈ c.steps,
        rank step.endpoint < rank e.name) ∧
      (∀ name, rank name ≤ (Config.chains server.endpoints).length) ∧
      ∀ (site : Site) (registry built : Endpoints) (log : List LogLine),
        site.build server registry = (.ok built, log) →
        ∀ e ∈ server.endpoints, ∃ entry, built.lookup e.name = some entry ∧
          ∀ (σ : Type) (leaves : Chain.Leaves Leaf σ),
            (∀ (deeper : Chain.Caller Leaf σ) (depth : Nat), rank e.name ≤ depth →
              Chain.callWithin deeper leaves built depth entry.handler
                = Chain.callHandler leaves built (Config.chains server.endpoints).length
                    entry.handler) ∧
            (∀ fuel, (Config.chains server.endpoints).length ≤ fuel →
              Chain.callHandler leaves built fuel entry.handler
                = Chain.callHandler leaves built (Config.chains server.endpoints).length
                    entry.handler) ∧
            Chain.call leaves built entry.handler
              = Chain.callHandler leaves built (Config.chains server.endpoints).length
                  entry.handler := by
  have hnames := Config.Server.names_nodup hserver
  have hknown := (Config.of_checkCalls_eq_ok hcalls).1
  obtain ⟨rank, hrank⟩ := Config.exists_rank hnames hcalls
  refine ⟨rank, hrank.lt, hrank.le, fun site registry built log hbuild e he => ?_⟩
  have hclosed := build_closed hbuild hnames hknown
  have hdescends := build_descends hbuild hnames hrank
  have hname : e.name ∈ server.endpoints.map (·.name) := List.mem_map_of_mem he
  obtain ⟨entry, hlookup⟩ := hclosed.registered e.name hname
  have hle := hrank.le e.name
  have hany : ∀ (σ : Type) (leaves : Chain.Leaves Leaf σ) (deeper : Chain.Caller Leaf σ)
      (depth : Nat), rank e.name ≤ depth →
        Chain.callWithin deeper leaves built depth entry.handler
          = Chain.callHandler leaves built (Config.chains server.endpoints).length
              entry.handler :=
    fun σ leaves deeper depth hdepth =>
      Chain.callHandler_eq hclosed hdescends leaves deeper hname hlookup hdepth hle
  refine ⟨entry, hlookup, fun σ leaves => ⟨hany σ leaves, fun fuel hfuel => ?_, ?_⟩⟩
  · rw [← Chain.callWithin_tooDeep leaves built fuel]
    exact hany σ leaves Chain.tooDeep fuel (hle.trans hfuel)
  · -- a server calls with a depth above the number of its entries, which is enough for all chains
    have hsize := chains_le_size hnames hclosed
    rw [Chain.call, ← Chain.callWithin_tooDeep leaves built (Chain.depth built)]
    exact hany σ leaves Chain.tooDeep _ (by rw [Chain.depth]; omega)

/-- Two chains in each other are all that the relay ever comes to. -/
theorem relay_nests_twice :
    Config.Server.ambiguity [] [] (Relay.server none).endpoints = none ∧
    (∃ g, Config.checkCalls (Relay.server none).endpoints = .ok g) ∧
    ∃ built log entry, Relay.site.build (Relay.server none) .empty = (.ok built, log) ∧
      built.lookup "outer" = some entry ∧
      ∀ (leaves : Chain.Leaves Leaf Unit) (deeper : Chain.Caller Leaf Unit),
        Chain.callWithin deeper leaves built 2 entry.handler
          = Chain.callHandler leaves built 2 entry.handler := by
  refine ⟨Relay.server_unambiguous none, ⟨_, Relay.server_calls none⟩, ?_⟩
  obtain ⟨built, log, hbuild⟩ : ∃ built log,
      Relay.site.build (Relay.server none) .empty = (.ok built, log) := ⟨_, _, rfl⟩
  obtain ⟨rank, -, hle, hnests⟩ := build_nests_within_chains (Relay.server_unambiguous none)
    (Relay.server_calls none)
  obtain ⟨entry, hentry, hall⟩ := hnests Relay.site .empty built log hbuild
    ⟨"outer", "", "/outer", .post, none, none, Relay.handlerTo ["inner", "tool"]⟩
    List.mem_cons_self
  exact ⟨built, log, entry, hbuild, hentry, fun leaves deeper => (hall Unit leaves).1 deeper 2
    (hle "outer")⟩

end Switchboard.Site
