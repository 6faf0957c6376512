import Switchboard.Proofs.Chain.Failing

/-!
The endpoints that steps name are found, however deep chains are nested.

* `Takes`, `takes_registered` — a call takes steps of its own and of nested chains; between endpoints
  that call each other only, each of them finds its endpoint;
* `Failure.Behind`, `leaf_of_unregistered` — so when a call fails and a missing endpoint is behind it, it
  was a leaf that said so.

Both go by induction on how deep chains may be nested: the steps of a chain with a known name have known
names again (`Closed`).
-/
namespace Switchboard

/-- A failure is behind another one when it is that one itself, or behind what caused it. -/
inductive Failure.Behind (f : Failure) : Failure → Prop where
  | self : Behind f f
  | cause {e c : Failure} (hcause : e.cause? = some c) (h : Behind f c) : Behind f e

namespace Failure

theorem Behind.eq_or {f e : Failure} (h : f.Behind e) :
    f = e ∨ ∃ c, e.cause? = some c ∧ f.Behind c := by
  cases h with
  | self => exact .inl rfl
  | cause hcause h => exact .inr ⟨_, hcause, h⟩

/-- Nothing but itself is behind a failure without a cause. -/
theorem Behind.eq_of_cause_eq_none {f e : Failure} (h : f.Behind e) (hcause : e.cause? = none) :
    f = e := by
  rcases h.eq_or with rfl | ⟨c, hc, -⟩
  · rfl
  · simp [hcause] at hc

/-- No missing endpoint is behind the failure of a template. -/
theorem not_behind_templateFailure {place : Place} {fault : Template.Error → Failure}
    {e : Template.Error} (hne : ∀ e, fault e ≠ .unregistered place)
    (hcause : ∀ e, (fault e).cause? = some (.template e)) :
    ¬ Behind (.unregistered place) (Chain.templateFailure fault e) := by
  have htemplate : ¬ Behind (.unregistered place) (.template e) := by
    intro h
    simpa using h.eq_of_cause_eq_none rfl
  intro h
  rw [Chain.templateFailure] at h
  by_cases he : e.isTemplateFault
  · rw [if_pos he] at h
    rcases h.eq_or with heq | ⟨c, hc, hbehind⟩
    · exact hne e heq.symm
    · obtain rfl := Option.some.inj ((hcause e).symm.trans hc)
      exact htemplate hbehind
  · rw [if_neg he] at h
    exact htemplate h

end Failure

namespace Chain

variable {L σ : Type} {leaves : Leaves L σ} {registry : Registry (Handler L)} {known : List String}

/-! ### Steps at any depth -/

/-- The steps that a call of a handler takes, with chains nested at most `fuel` deep: those of the chain
itself, each in the session after the steps before it, and those that the handlers called in them take
in turn. -/
inductive Takes (leaves : Leaves L σ) (registry : Registry (Handler L)) (request : Value) :
    (fuel : Nat) → Handler L → (payload : Value) → Session σ → Config.Step → Prop where
  | own {fuel : Nat} {chain : Config.Chain} {payload : Value} {s u : Session σ}
      {ms : List (Moment σ)} {step : Config.Step} {rest : List Config.Step}
      (hsteps : chain.steps = ms.map (·.step) ++ step :: rest)
      (htrace : Trace (callHandler leaves registry fuel) registry s.history.length request
        (s.openRun payload) ms u) :
      Takes leaves registry request (fuel + 1) (.chain chain) payload s step
  | nested {fuel : Nat} {chain : Config.Chain} {payload : Value} {s u : Session σ}
      {ms : List (Moment σ)} {step : Config.Step} {rest : List Config.Step}
      {entry : Entry (Handler L)} {input : Value} {deeper : Config.Step}
      (hsteps : chain.steps = ms.map (·.step) ++ step :: rest)
      (htrace : Trace (callHandler leaves registry fuel) registry s.history.length request
        (s.openRun payload) ms u)
      (hentry : registry.lookup step.endpoint = some entry)
      (hcompile : Template.compile u.history s.history.length step.input = .ok input)
      (hadmits : Admits entry.input (u.history.reveal input))
      (h : Takes leaves registry request fuel entry.handler input
        (u.noted entry.name input request) deeper) :
      Takes leaves registry request (fuel + 1) (.chain chain) payload s deeper

/-- Between endpoints that call each other only, every step at any depth finds its endpoint. -/
theorem takes_registered (hclosed : Closed registry known) {name : String} (hname : name ∈ known)
    {entry : Entry (Handler L)} (hentry : registry.lookup name = some entry) {request : Value}
    {fuel : Nat} {payload : Value} {s : Session σ} {step : Config.Step}
    (h : Takes leaves registry request fuel entry.handler payload s step) :
    ∃ found, registry.lookup step.endpoint = some found := by
  generalize hhandler : entry.handler = handler at h
  induction h generalizing name entry with
  | @own fuel chain payload s u ms step rest hsteps htrace =>
    have hstep : step ∈ chain.steps := by simp [hsteps]
    exact hclosed.registered _ (hclosed.steps name hname entry hentry chain hhandler step hstep)
  | @nested fuel chain payload s u ms step rest below input deeper hsteps htrace hbelow _ _ _ ih =>
    have hstep : step ∈ chain.steps := by simp [hsteps]
    exact ih (hclosed.steps name hname entry hentry chain hhandler step hstep) hbelow rfl

/-! ### Failures at any depth -/

/-- A leaf can answer with a failure behind which there is a given one. -/
def Raises (leaves : Leaves L σ) (leaf : L) (f : Failure) : Prop :=
  ∃ h payload request state e, (leaves leaf h payload request state).1 = .error e ∧ f.Behind e

/-- What is behind the failure of a leaf was raised by it. -/
theorem raises_of_invoke {entry : Entry (Handler L)} {leaf : L} (hleaf : entry.handler = .leaf leaf)
    {fuel : Nat} {payload request : Value} {s t : Session σ} {e f : Failure}
    (h : invoke (callHandler leaves registry fuel) entry payload request s = (.error e, t))
    (hbehind : f.Behind e) : Raises leaves leaf f := by
  rw [invoke_eq, hleaf, callHandler_leaf] at h
  exact ⟨_, _, _, _, e, (Prod.mk.inj h).1, hbehind⟩

/-- Where a step fails and a missing endpoint is behind, that is its own endpoint, or the missing
endpoint is behind the failure of its handler. -/
theorem StepFails.unregistered_or {call : Caller L σ} {run : Nat} {request : Value}
    {step : Config.Step} {s t : Session σ} {fault : Fault}
    (h : StepFails call registry run request step s fault t) {at' place : Place}
    (hbehind : Failure.Behind (.unregistered place) (fault.failure at')) :
    registry.lookup step.endpoint = none ∨
      ∃ entry input cause, registry.lookup step.endpoint = some entry ∧
        invoke call entry input request s = (.error cause, t) ∧
          Failure.Behind (.unregistered place) cause := by
  cases h with
  | unregistered hentry => exact .inl hentry
  | inputTemplate hentry hcompile =>
    exact absurd hbehind
      (Failure.not_behind_templateFailure (fun _ => by simp) (fun _ => rfl))
  | inputUnchecked | inputRejected | outputUnchecked | outputRejected =>
    simpa [Fault.failure] using hbehind.eq_of_cause_eq_none rfl
  | handler hentry hcompile hadmits hcall =>
    rcases hbehind.eq_or with heq | ⟨c, hc, hbehind⟩
    · simp [Fault.failure] at heq
    · obtain rfl := Option.some.inj hc
      exact .inr ⟨_, _, _, hentry, hcall, hbehind⟩

/-- Between endpoints that call each other only, a missing endpoint is behind the failure of a call only
if a leaf among them raised it. -/
theorem leaf_of_unregistered (hclosed : Closed registry known) {name : String}
    (hname : name ∈ known) {entry : Entry (Handler L)} (hentry : registry.lookup name = some entry)
    {fuel : Nat} {payload request : Value} {s t : Session σ} {e : Failure}
    (h : invoke (callHandler leaves registry fuel) entry payload request s = (.error e, t))
    {place : Place} (hbehind : Failure.Behind (.unregistered place) e) :
    ∃ name ∈ known, ∃ entry leaf, registry.lookup name = some entry ∧ entry.handler = .leaf leaf ∧
      Raises leaves leaf (.unregistered place) := by
  induction fuel generalizing name entry payload s t e with
  | zero =>
    cases hhandler : entry.handler with
    | leaf leaf =>
      exact ⟨name, hname, entry, leaf, hentry, hhandler, raises_of_invoke hhandler h hbehind⟩
    | chain chain =>
      rw [invoke_eq, hhandler, callHandler, Prod.mk.injEq] at h
      obtain rfl := Except.error.inj h.1
      simpa using hbehind.eq_of_cause_eq_none rfl
  | succ fuel ih =>
    cases hhandler : entry.handler with
    | leaf leaf =>
      exact ⟨name, hname, entry, leaf, hentry, hhandler, raises_of_invoke hhandler h hbehind⟩
    | chain chain =>
      -- the failure of the handler is that of the execution of its chain
      rw [invoke_eq, hhandler, callHandler] at h
      rcases hrun : execute (callHandler leaves registry fuel) registry chain payload request .fresh
        (s.noted entry.name payload request) with ⟨⟨outcome, final⟩, u⟩
      rw [hrun, Prod.mk.injEq] at h
      obtain ⟨rfl, rfl⟩ := h
      rcases (execute_eq_error (show Run.fresh.isOver = false from rfl)).mp hrun with
        ⟨ms, step, v, fault, ⟨⟨rest, hsteps⟩, -, hfails⟩, rfl, -⟩ | ⟨ms, fault, -, rfl, -⟩
      · have hstep : step ∈ chain.steps := by simp [hsteps]
        have hknown := hclosed.steps name hname entry hentry chain hhandler step hstep
        -- the endpoint of the step is registered, so the failure comes from further down
        rcases hfails.unregistered_or hbehind with hnone | ⟨below, input, cause, hbelow, hcall, hcause⟩
        · obtain ⟨found, hfound⟩ := hclosed.registered _ hknown
          simp [hfound] at hnone
        · exact ih hknown hbelow hcall hcause
      · exact absurd hbehind
          (Failure.not_behind_templateFailure (fun _ => by simp) (fun _ => rfl))

end Chain

end Switchboard
