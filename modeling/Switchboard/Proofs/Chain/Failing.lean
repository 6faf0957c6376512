import Switchboard.Proofs.Chain.Fault
import Switchboard.Proofs.Chain.Success

/-!
When the execution of a chain fails, and what has happened then.

* `FailsAt` — some steps pass, and the one behind them fails;
* `FailsAtEnd` — all steps pass, and the output template has no value;
* `execute_eq_error` — an execution of a run that is not over fails in one of these two ways;
* `execute_fails` — what the failure of a chain tells, which calls were made before it, and how the run
  has ended.

Together with `execute_eq_ok` the theorem accounts for every execution.
-/
namespace Switchboard.Chain

variable {L σ : Type} {call : Caller L σ} {registry : Registry (Handler L)} {chain : Config.Chain}
  {payload request : Value}

/-- An execution that fails at a step: `ms` holds a moment for each step before it, and `step` meets the
session `u`, fails with `fault` and leaves the session `t`. -/
structure FailsAt (call : Caller L σ) (registry : Registry (Handler L)) (chain : Config.Chain)
    (payload request : Value) (s : Session σ) (ms : List (Moment σ)) (step : Config.Step)
    (u : Session σ) (fault : Fault) (t : Session σ) : Prop where
  steps : ∃ rest, chain.steps = ms.map (·.step) ++ step :: rest
  passed : Trace call registry s.history.length request (s.openRun payload) ms u
  fails : StepFails call registry s.history.length request step u fault t

/-- An execution that fails after its last step: `ms` holds a moment for each step, and after them the
output template fails with `fault`. -/
structure FailsAtEnd (call : Caller L σ) (registry : Registry (Handler L)) (chain : Config.Chain)
    (payload request : Value) (s : Session σ) (ms : List (Moment σ)) (fault : Template.Error)
    (t : Session σ) : Prop where
  steps : chain.steps = ms.map (·.step)
  passed : Trace call registry s.history.length request (s.openRun payload) ms t
  fails : Template.compile t.history s.history.length chain.output = .error fault

/-! ### The end of a run -/

/-- A run that ends with a failure; one that is no failure of a chain leaves it as it is. -/
def Run.endedBy (r : Run) (e : Failure) : Run :=
  if e.isOfChain then { r with status := .failed, error := some e } else r

theorem close_error {record : Run} (hopen : record.isOver = false) (e : Failure) :
    close (.error e) record = (.error e, record.endedBy e) := by
  rw [close, Run.endedBy]
  by_cases hchain : e.isOfChain
  · simp [hchain, Run.fail, Run.change, hopen]
  · simp [hchain]

/-- The result of a chain is missing when its template fails; without one there always is a result. -/
theorem result_eq_error {h : History} {run : Nat} {output : Value} {e : Failure} :
    result h run output = .error e ↔ ∃ fault, Template.compile h run output = .error fault ∧
      e = templateFailure .outputTemplate fault := by
  by_cases hnull : output = .null
  · subst hnull
    simp [result, Template.compile]
  · have hresult : result h run output
        = (Template.compile h run output).mapError (templateFailure .outputTemplate) := by
      cases output <;> first | rfl | exact absurd rfl hnull
    rw [hresult]
    cases Template.compile h run output <;> simp [Except.mapError, eq_comm]

/-- An execution fails at a step, or after its last step. -/
theorem execute_eq_error {record final : Run} {s t : Session σ} {e : Failure}
    (hopen : record.isOver = false) :
    execute call registry chain payload request record s = ((.error e, final), t) ↔
      (∃ ms step u fault, FailsAt call registry chain payload request s ms step u fault t ∧
        e = fault.failure (placeOf ms.length step) ∧
          final = (record.afterSteps 0 (ms.length + 1)).endedBy e) ∨
      ∃ ms fault, FailsAtEnd call registry chain payload request s ms fault t ∧
        e = templateFailure .outputTemplate fault ∧
          final = (record.afterSteps 0 ms.length).endedBy e := by
  have hstill : ∀ count, (record.afterSteps 0 count).isOver = false :=
    Run.isOver_afterSteps hopen 0
  rw [execute]
  constructor
  · intro h
    rcases hsteps : runSteps call registry s.history.length request 0 chain.steps record
      (s.openRun payload) with ⟨⟨e' | _, record'⟩, u⟩
    · obtain ⟨ms, step, rest, v, fault, hchain, htrace, hfails, rfl, rfl⟩ :=
        (runSteps_eq_error hopen).mp hsteps
      simp only [hsteps, close_error (hstill _), Prod.mk.injEq, Except.error.injEq] at h
      obtain ⟨⟨rfl, rfl⟩, rfl⟩ := h
      rw [Nat.zero_add]
      exact .inl ⟨ms, step, v, fault, ⟨⟨rest, hchain⟩, htrace, hfails⟩, rfl, rfl⟩
    · obtain ⟨rfl, ms, hms, htrace⟩ := (runSteps_eq_ok hopen).mp hsteps
      simp only [hsteps] at h
      cases hresult : result u.history s.history.length chain.output with
      | ok r => simp [hresult, close, Run.succeed_of_open (hstill _)] at h
      | error e' =>
        simp only [hresult, close_error (hstill _), Prod.mk.injEq, Except.error.injEq] at h
        obtain ⟨⟨rfl, rfl⟩, rfl⟩ := h
        obtain ⟨fault, hcompile, rfl⟩ := result_eq_error.mp hresult
        exact .inr ⟨ms, fault, ⟨hms.symm, htrace, hcompile⟩, rfl, by rw [← hms, List.length_map]⟩
  · rintro (⟨ms, step, u, fault, ⟨⟨rest, hchain⟩, htrace, hfails⟩, rfl, rfl⟩ |
      ⟨ms, fault, ⟨hms, htrace, hcompile⟩, rfl, rfl⟩)
    · rw [(runSteps_eq_error hopen).mpr
        ⟨ms, step, rest, u, fault, hchain, htrace, hfails, rfl, rfl⟩]
      simp only [close_error (hstill _), Nat.zero_add]
    · rw [(runSteps_eq_ok hopen).mpr ⟨rfl, ms, hms.symm, htrace⟩]
      simp only [result_eq_error.mpr ⟨fault, hcompile, rfl⟩, close_error (hstill _), hms,
        List.length_map]

/-! ### Calls before a failure -/

/-- A leaf calls nothing in turn, so its own call is all that is noted. -/
theorem calls_invoke_leaf (leaves : Leaves L σ) (fuel : Nat) {entry : Entry (Handler L)}
    {handler : L} (hleaf : entry.handler = .leaf handler) (payload request : Value)
    (s : Session σ) :
    (invoke (callHandler leaves registry fuel) entry payload request s).2.calls
      = s.calls ++ [⟨entry.name, s.history.reveal payload, request⟩] := by
  rw [invoke_eq, hleaf, callHandler_leaf]
  rfl

/-- The calls of a step that fails: none, or its own one and those of its handler. -/
theorem StepFails.calls {leaves : Leaves L σ} {fuel run : Nat} {step : Config.Step}
    {s t : Session σ} {fault : Fault}
    (h : StepFails (callHandler leaves registry fuel) registry run request step s fault t) :
    (fault.isPastCall = false → t = s) ∧
    (fault.isPastCall = true → ∃ entry input inner, registry.lookup step.endpoint = some entry ∧
      Template.compile s.history run step.input = .ok input ∧
      t.calls = s.calls ++ ⟨step.endpoint, s.history.reveal input, request⟩ :: inner ∧
      ∀ handler, entry.handler = .leaf handler → inner = []) := by
  refine ⟨h.eq_of_not_isPastCall, fun hfault => ?_⟩
  obtain ⟨entry, input, hentry, hcompile, -, rfl⟩ := h.invoked hfault
  have hname : entry.name = step.endpoint := Registry.lookup_name hentry
  obtain ⟨inner, hinner⟩ :=
    invoke_calls (callHandler_onlyAdds leaves registry fuel) entry input request s
  rw [hname] at hinner
  refine ⟨entry, input, inner, hentry, hcompile, hinner, fun handler hleaf => ?_⟩
  rw [calls_invoke_leaf leaves fuel hleaf, hname, List.append_cancel_left_eq] at hinner
  exact (List.cons.inj hinner).2.symm

/-- What the steps that passed have left behind, from the session in which the run was opened. -/
theorem Trace.opened {leaves : Leaves L σ} {fuel : Nat} {s t : Session σ} {ms : List (Moment σ)}
    (h : Trace (callHandler leaves registry fuel) registry s.history.length request
      (s.openRun payload) ms t) :
    t.history.context s.history.length = contextAfter payload ms ∧
      t.calls = s.calls ++ ms.flatMap (fun m => m.call request :: m.inner) ∧
      ∀ m ∈ ms, ∀ entry handler, registry.lookup m.step.endpoint = some entry →
        entry.handler = .leaf handler → m.inner = [] := by
  have hcall := callHandler_onlyAdds leaves registry fuel
  have hcalls := h.calls hcall
  exact ⟨h.context_opened hcall, hcalls,
    fun m hm entry handler hentry hleaf => (h.passes m hm).inner_leaf hentry hleaf⟩

/-! ### Failed executions -/

/-- The failure of a chain in its output template tells of no step. -/
theorem templateFailure_spec {fault : Template.Error}
    (h : (templateFailure .outputTemplate fault).isOfChain = true) :
    (templateFailure .outputTemplate fault).place? = none ∧
      (templateFailure .outputTemplate fault).details = [] ∧
        (templateFailure .outputTemplate fault).cause? = some (.template fault) := by
  by_cases hfault : fault.isTemplateFault
  · rw [templateFailure, if_pos hfault]
    exact ⟨rfl, rfl, rfl⟩
  · simp [templateFailure, hfault, Failure.isOfChain] at h

/-- **Failed execution.** The execution of a chain, in a run that is not over, ends in the failure `e` of
a chain exactly when some steps pass and the one behind them fails, at the first phase that goes wrong,
or when all steps pass and the output template has no value. In the first case `e` tells of that step,
of the reports on what was not allowed and of the failure behind; in the second it tells of no step. The
calls made are those of the steps that passed, in order and once each, every one followed by those that
a nested chain makes in turn, and that of the step that failed, if it came so far. In both cases the run
has failed with `e`, at the last step that was started, and its output is untouched. -/
theorem execute_fails (leaves : Leaves L σ) (registry : Registry (Handler L)) (fuel : Nat)
    (chain : Config.Chain) (payload request : Value) {record : Run}
    (hopen : record.isOver = false) (s : Session σ) {e : Failure} (hchain : e.isOfChain = true)
    (t : Session σ) :
    ((∃ final, execute (callHandler leaves registry fuel) registry chain payload request record s
        = ((.error e, final), t)) ↔
      (∃ ms step u fault,
        FailsAt (callHandler leaves registry fuel) registry chain payload request s ms step u fault t ∧
          e = fault.failure (placeOf ms.length step)) ∨
      ∃ ms fault,
        FailsAtEnd (callHandler leaves registry fuel) registry chain payload request s ms fault t ∧
          e = templateFailure .outputTemplate fault) ∧
    ∀ final, execute (callHandler leaves registry fuel) registry chain payload request record s
        = ((.error e, final), t) →
      final.status = .failed ∧ final.error = some e ∧ final.output = record.output ∧
      ((∃ ms step u fault,
        FailsAt (callHandler leaves registry fuel) registry chain payload request s ms step u fault t ∧
        u.history.context s.history.length = contextAfter payload ms ∧
        final.currentStep = some (ms.length : Int) ∧
        e.place? = some ⟨ms.length, step.name, step.endpoint⟩ ∧
        e.details = fault.details ∧ e.cause? = fault.cause? ∧
        u.calls = s.calls ++ ms.flatMap (fun m => m.call request :: m.inner) ∧
        (∀ m ∈ ms, ∀ entry handler, registry.lookup m.step.endpoint = some entry →
          entry.handler = .leaf handler → m.inner = []) ∧
        (fault.isPastCall = false → t = u) ∧
        (fault.isPastCall = true → ∃ entry input inner,
          registry.lookup step.endpoint = some entry ∧
          Template.compile u.history s.history.length step.input = .ok input ∧
          t.calls = u.calls ++ ⟨step.endpoint, u.history.reveal input, request⟩ :: inner ∧
          ∀ handler, entry.handler = .leaf handler → inner = [])) ∨
      ∃ ms fault,
        FailsAtEnd (callHandler leaves registry fuel) registry chain payload request s ms fault t ∧
        t.history.context s.history.length = contextAfter payload ms ∧
        final.currentStep
          = (if chain.steps = [] then record.currentStep else some (chain.steps.length - 1)) ∧
        e.place? = none ∧ e.details = [] ∧ e.cause? = some (.template fault) ∧
        t.calls = s.calls ++ ms.flatMap (fun m => m.call request :: m.inner) ∧
        ∀ m ∈ ms, ∀ entry handler, registry.lookup m.step.endpoint = some entry →
          entry.handler = .leaf handler → m.inner = []) := by
  refine ⟨⟨?_, ?_⟩, fun final h => ?_⟩
  · rintro ⟨final, h⟩
    rcases (execute_eq_error hopen).mp h with
      ⟨ms, step, u, fault, hat, he, -⟩ | ⟨ms, fault, hat, he, -⟩
    · exact .inl ⟨ms, step, u, fault, hat, he⟩
    · exact .inr ⟨ms, fault, hat, he⟩
  · rintro (⟨ms, step, u, fault, hat, he⟩ | ⟨ms, fault, hat, he⟩)
    · exact ⟨_, (execute_eq_error hopen).mpr (.inl ⟨ms, step, u, fault, hat, he, rfl⟩)⟩
    · exact ⟨_, (execute_eq_error hopen).mpr (.inr ⟨ms, fault, hat, he, rfl⟩)⟩
  · rcases (execute_eq_error hopen).mp h with
      ⟨ms, step, u, fault, hat, rfl, rfl⟩ | ⟨ms, fault, hat, rfl, rfl⟩
    · obtain ⟨hcontext, hcalls, hinner⟩ := hat.passed.opened
      obtain ⟨hplace, hdetails, hcause⟩ := Fault.failure_spec hchain
      rw [Run.endedBy, if_pos hchain]
      have hstep : (record.afterSteps 0 (ms.length + 1)).currentStep = some (ms.length : Int) := by
        simp [Run.afterSteps]
      exact ⟨rfl, rfl, rfl, .inl ⟨ms, step, u, fault, hat, hcontext, hstep, hplace, hdetails, hcause,
        hcalls, hinner, hat.fails.calls⟩⟩
    · obtain ⟨hcontext, hcalls, hinner⟩ := hat.passed.opened
      obtain ⟨hplace, hdetails, hcause⟩ := templateFailure_spec hchain
      rw [Run.endedBy, if_pos hchain]
      refine ⟨rfl, rfl, ?_, .inr ⟨ms, fault, hat, hcontext, ?_, hplace, hdetails, hcause, hcalls,
        hinner⟩⟩
      · cases ms <;> rfl
      · rw [hat.steps]
        cases ms with
        | nil => rfl
        | cons m rest => simp [Run.afterSteps]

/-- Gives back its payload, or gives up. -/
def echoOrRefuse : Leaves Bool Unit := fun answers _ payload _ state =>
  (if answers then .ok payload else .error (.raised .state "no"), state)

/-- One endpoint that answers and one that does not. -/
def refusingRegistry : Registry (Handler Bool) :=
  ⟨[⟨"echo", .leaf true, none, none⟩, ⟨"refuse", .leaf false, none, none⟩]⟩

/-- Asks the endpoint that does not answer after the one that does; a step behind has no endpoint. -/
def refusedSecond : Config.Chain :=
  ⟨[⟨none, "echo", .str "\x7b\x7binput\x7d\x7d"⟩,
      ⟨some "second", "refuse", .str "\x7b\x7bpreviousStep\x7d\x7d"⟩, ⟨none, "nowhere", .null⟩], .null⟩

theorem execute_refusedSecond :
    Run.fresh.isOver = false ∧
      (Failure.handler ⟨1, some "second", "refuse"⟩ (.raised .state "no")).isOfChain = true ∧
      ∃ final t, execute (callHandler echoOrRefuse refusingRegistry 0) refusingRegistry refusedSecond
          (.int 7) .null .fresh (.start ())
            = ((.error (.handler ⟨1, some "second", "refuse"⟩ (.raised .state "no")), final), t) ∧
        final.status = .failed ∧ final.output = .null ∧
        t.calls = [⟨"echo", .int 7, .null⟩, ⟨"refuse", .int 7, .null⟩] := by
  refine ⟨rfl, rfl, _, _, rfl, ?_⟩
  obtain ⟨-, hafter⟩ := execute_fails echoOrRefuse refusingRegistry 0 refusedSecond (.int 7) .null
    (show Run.fresh.isOver = false from rfl) (.start ())
    (e := .handler ⟨1, some "second", "refuse"⟩ (.raised .state "no")) rfl _
  obtain ⟨hstatus, -, houtput, -⟩ := hafter _ rfl
  exact ⟨hstatus, houtput, rfl⟩

end Switchboard.Chain
