import Switchboard.Proofs.Chain.Failing
import Switchboard.Proofs.Failure
import Switchboard.Proofs.Handlers.Build

/-!
Chains that call chains: a failure at the bottom comes out at the top with the whole way down to it.

* `Tower` — chains each of which reaches the step that calls the next one, down to one that fails;
* `Chain.execute_nested` — one floor: when the chain of a step fails, so does the chain of the step;
* `Site.tower_keeps_way` — the failure of a whole tower, in a registry that is built from settings.

Design notes: a tower asks for nothing about failures but at its bottom, so that what every floor
makes of the one below it is proved and not assumed. The fuel of a tower is that of its outermost chain
and goes down by one from floor to floor, as in `callHandler`; a server has enough of it for all its
chains (`Site.build_nests_within_chains`).
-/
namespace Switchboard

/-! ### One floor -/

namespace Chain

variable {L σ : Type}

/-- When some steps pass and the one behind them calls a chain that fails, the chain of these steps
fails at that step, with the failure of the other chain behind it. -/
theorem execute_nested {leaves : Leaves L σ} {registry : Registry (Handler L)} {fuel : Nat}
    {chain inner : Config.Chain} {payload request input : Value} {s u t : Session σ}
    {ms : List (Moment σ)} {step : Config.Step} {rest : List Config.Step} {record innerFinal : Run}
    {entry : Entry (Handler L)} {cause : Failure} (hopen : record.isOver = false)
    (hsteps : chain.steps = ms.map (·.step) ++ step :: rest)
    (hpassed : Trace (callHandler leaves registry (fuel + 1)) registry s.history.length request
      (s.openRun payload) ms u)
    (hentry : registry.lookup step.endpoint = some entry) (hchain : entry.handler = .chain inner)
    (hcompile : Template.compile u.history s.history.length step.input = .ok input)
    (hadmits : Admits entry.input (u.history.reveal input))
    (hinner : execute (callHandler leaves registry fuel) registry inner input request .fresh
      (u.noted entry.name input request) = ((.error cause, innerFinal), t)) :
    ∃ final, execute (callHandler leaves registry (fuel + 1)) registry chain payload request record s
      = ((.error (.handler (placeOf ms.length step) cause), final), t) := by
  have hcall : invoke (callHandler leaves registry (fuel + 1)) entry input request u
      = (.error cause, t) := by
    rw [invoke_eq, hchain, callHandler, hinner]
  have hat : FailsAt (callHandler leaves registry (fuel + 1)) registry chain payload request s ms step
      u (.handler cause) t :=
    ⟨⟨rest, hsteps⟩, hpassed, .handler hentry hcompile hadmits hcall⟩
  exact ⟨_, (execute_eq_error hopen).mpr (.inl ⟨ms, step, u, _, hat, rfl, rfl⟩)⟩

end Chain

/-! ### Towers -/

section Tower

variable {σ : Type}

/-- A tower of chains over the settings of a server. At its bottom stands a chain that fails with
`cause`; in each chain above it some steps pass, and the step behind them, whose place is noted, gets
an input that its endpoint takes and calls the next chain of the tower. -/
inductive Tower (server : Config.Server) (registry : Endpoints) (leaves : Chain.Leaves Leaf σ)
    (request : Value) (cause : Failure) (t : Chain.Session σ) :
    (fuel : Nat) → Config.Chain → (payload : Value) → Chain.Session σ → List Place → Prop where
  | bottom {fuel : Nat} {chain : Config.Chain} {payload : Value} {s : Chain.Session σ}
      {final : Chain.Run} (hchain : cause.isOfChain = true)
      (hfails : Chain.execute (Chain.callHandler leaves registry fuel) registry chain payload request
        .fresh s = ((.error cause, final), t)) :
      Tower server registry leaves request cause t fuel chain payload s []
  | floor {fuel : Nat} {chain inner : Config.Chain} {payload input : Value}
      {s u : Chain.Session σ} {ms : List (Chain.Moment σ)} {step : Config.Step}
      {rest : List Config.Step} {e : Config.Endpoint} {places : List Place}
      (hsteps : chain.steps = ms.map (·.step) ++ step :: rest)
      (hpassed : Chain.Trace (Chain.callHandler leaves registry (fuel + 1)) registry
        s.history.length request (s.openRun payload) ms u)
      (he : e ∈ server.endpoints) (hname : step.endpoint = e.name) (hinner : e.handler = .chain inner)
      (hcompile : Template.compile u.history s.history.length step.input = .ok input)
      (haccepts : Config.Accepts e.inputSchema (u.history.reveal input))
      (hbelow : Tower server registry leaves request cause t fuel inner input
        (u.noted e.name input request) places) :
      Tower server registry leaves request cause t (fuel + 1) chain payload s
        (Chain.placeOf ms.length step :: places)

variable {site : Site} {server : Config.Server} {base registry : Endpoints} {log : List LogLine}
  {leaves : Chain.Leaves Leaf σ} {request : Value} {cause : Failure} {t : Chain.Session σ}

namespace Tower

/-- The places of a tower name endpoints of the settings. -/
theorem mem_endpoints {fuel : Nat} {chain : Config.Chain} {payload : Value} {s : Chain.Session σ}
    {places : List Place}
    (h : Tower server registry leaves request cause t fuel chain payload s places) :
    ∀ p ∈ places, ∃ e ∈ server.endpoints, p.endpoint = e.name := by
  induction h with
  | bottom => simp
  | floor hsteps hpassed he hname hinner hcompile haccepts hbelow ih =>
    exact List.forall_mem_cons.mpr ⟨⟨_, he, hname⟩, ih⟩

/-- The outermost chain of a tower fails with what happened at the bottom, below all places of the
tower. The induction is on the floors: the run of a chain below a step is a fresh one, while that of the
outermost chain may be any that is not over. -/
theorem fails (hserver : Config.Server.ambiguity [] [] server.endpoints = none)
    (hbuild : site.build server base = (.ok registry, log)) {fuel : Nat} {chain : Config.Chain}
    {payload : Value} {s : Chain.Session σ} {places : List Place}
    (h : Tower server registry leaves request cause t fuel chain payload s places)
    {record : Chain.Run} (hopen : record.isOver = false) (hrecord : record = .fresh ∨ places ≠ []) :
    ∃ final, Chain.execute (Chain.callHandler leaves registry fuel) registry chain payload request
      record s = ((.error (Failure.nested places cause), final), t) := by
  induction h generalizing record with
  | bottom hchain hfails =>
    obtain rfl : record = .fresh := hrecord.resolve_right (by simp)
    exact ⟨_, hfails⟩
  | @floor fuel chain inner payload input s u ms step rest e places hsteps hpassed he hname hinner
      hcompile haccepts hbelow ih =>
    obtain ⟨entry, hentry, hlookup⟩ :=
      Site.build_lookup hbuild (Config.Server.names_nodup hserver) he
    obtain ⟨hentryName, hhandler, hinput, -⟩ := Site.entryFor_spec hentry
    have hchain : entry.handler = .chain inner :=
      Except.ok.inj (hhandler.symm.trans (Site.handlerFor_chain hinner))
    obtain ⟨innerFinal, hfails⟩ := ih (show Chain.Run.fresh.isOver = false from rfl) (.inl rfl)
    rw [← hentryName] at hfails
    exact Chain.execute_nested hopen hsteps hpassed (by rw [hname, hlookup]) hchain hcompile
      (Site.admits_of_accepts hinput haccepts) hfails

end Tower

/-- **The whole way down.** In the registry that is built from settings, let chains call each other
down to one that fails with the failure `cause` of a chain, where in each chain above it the steps
before the call pass and the endpoint takes the input. Then the outermost chain fails, and its failure
tells of all places in turn, from the outermost to the innermost, and then of what happened at the
bottom. It holds the place of the outermost step and has no reports of its own, and as many causes down
as there are places stands `cause`. Settings that were read are not ambiguous
(`Config.Server.unambiguous_of_read`), and their endpoints have names
(`Config.Server.named_of_read`). -/
theorem Site.tower_keeps_way (hserver : Config.Server.ambiguity [] [] server.endpoints = none)
    (hnamed : ∀ e ∈ server.endpoints, e.name ≠ "")
    (hbuild : site.build server base = (.ok registry, log)) {fuel : Nat} {chain : Config.Chain}
    {payload : Value} {s : Chain.Session σ} {place : Place} {places : List Place}
    (htower :
      Tower server registry leaves request cause t fuel chain payload s (place :: places))
    {record : Chain.Run} (hopen : record.isOver = false) :
    ∃ failure final,
      Chain.execute (Chain.callHandler leaves registry fuel) registry chain payload request record s
        = ((.error failure, final), t) ∧
      failure.isOfChain = true ∧
      failure.message
        = String.join ((place :: places).map fun p => p.inFull ++ "handler failed: ")
          ++ cause.message ∧
      failure.place? = some place ∧ failure.details = [] ∧
      failure.behind? (places.length + 1) = some cause := by
  obtain ⟨final, hfails⟩ := htower.fails hserver hbuild hopen (.inr (by simp))
  have hfull : ∀ p ∈ place :: places, p.text = p.inFull := by
    intro p hp
    obtain ⟨e, he, hendpoint⟩ := htower.mem_endpoints p hp
    exact Place.text_eq_inFull (by rw [hendpoint]; exact hnamed e he)
  refine ⟨_, final, hfails, rfl, ?_, rfl, rfl, Failure.behind?_nested (place :: places) cause⟩
  rw [Failure.message_nested, List.map_congr_left fun p hp => by rw [hfull p hp]]

end Tower

/-! ### A tower over the relay -/

namespace Relay

/-- A chain that asks the outermost chain of the relay. -/
def topChain : Config.Chain := ⟨[⟨some "look", "outer", .str "\x7b\x7binput\x7d\x7d"⟩], .null⟩

/-- The relay with one more chain on top. -/
def topped : Config.Server :=
  { server none with
    endpoints := ⟨"top", "", "/top", .post, none, none, .chain topChain⟩ :: (server none).endpoints }

/-- Everything that is asked gives up. -/
def refuseAll : Chain.Leaves Leaf Unit := fun _ _ _ _ state => (.error (.raised .state "no"), state)

theorem topped_keeps_way :
    Config.Server.ambiguity [] [] topped.endpoints = none ∧ (∀ e ∈ topped.endpoints, e.name ≠ "") ∧
    ∃ registry log failure final t, site.build topped .empty = (.ok registry, log) ∧
      Chain.execute (Chain.callHandler refuseAll registry 2) registry topChain (.int 7) .null .fresh
        (.start ()) = ((.error failure, final), t) ∧
      failure.message = "Chain step 0 \"look\" (endpoint \"outer\"): handler failed: " ++
        "Chain step 0 (endpoint \"inner\"): handler failed: " ++
          "Chain step 0 (endpoint \"tool\"): handler failed: no" ∧
      failure.behind? 2 = some (.handler ⟨0, none, "tool"⟩ (.raised .state "no")) := by
  have hserver : Config.Server.ambiguity [] [] topped.endpoints = none := by
    simp [topped, server, Config.Server.ambiguity]
  have hnamed : ∀ e ∈ topped.endpoints, e.name ≠ "" := by simp [topped, server]
  -- the sessions in which the chain on top, the outer chain and the inner chain are called
  let first : Chain.Session Unit := .start ()
  let second := (first.openRun (.int 7)).noted "outer" (.int 7) .null
  let third := (second.openRun (.int 7)).noted "inner" (.int 7) .null
  obtain ⟨registry, log, final, t, hbuild, hbottom⟩ : ∃ registry log final t,
      site.build topped .empty = (.ok registry, log) ∧
      Chain.execute (Chain.callHandler refuseAll registry 0) registry
        ⟨[⟨none, "tool", .str "\x7b\x7binput\x7d\x7d"⟩], .null⟩ (.int 7) .null .fresh third
          = ((.error (.handler ⟨0, none, "tool"⟩ (.raised .state "no")), final), t) :=
    ⟨_, _, _, _, rfl, rfl⟩
  have hinner : (⟨"inner", "", "/inner", .post, none, none, handlerTo ["tool"]⟩ : Config.Endpoint)
      ∈ topped.endpoints := by simp [topped, server]
  have houter :
      (⟨"outer", "", "/outer", .post, none, none, handlerTo ["inner", "tool"]⟩ : Config.Endpoint)
        ∈ topped.endpoints := by simp [topped, server]
  -- each chain calls the next one in its first step, before which nothing has happened
  have hfirst (step : Config.Step) (rest : List Config.Step) :
      (Config.Chain.mk (step :: rest) .null).steps
        = ([] : List (Chain.Moment Unit)).map (·.step) ++ step :: rest := rfl
  have htower : Tower topped registry refuseAll .null
      (.handler ⟨0, none, "tool"⟩ (.raised .state "no")) t 2 topChain (.int 7) first
      [⟨0, some "look", "outer"⟩, ⟨0, none, "inner"⟩] :=
    .floor (hfirst ⟨some "look", "outer", .str "\x7b\x7binput\x7d\x7d"⟩ []) (.done _) houter rfl
      rfl rfl (Config.accepts_none _)
      (.floor (hfirst _ _) (.done _) hinner rfl rfl rfl (Config.accepts_none _) (.bottom rfl hbottom))
  obtain ⟨failure, final, hfails, -, hmessage, -, -, hcause⟩ :=
    Site.tower_keeps_way hserver hnamed hbuild htower (show Chain.Run.fresh.isOver = false from rfl)
  exact ⟨hserver, hnamed, registry, log, failure, final, t, hbuild, hfails, hmessage, hcause⟩

end Relay

end Switchboard
