import Switchboard.Proofs.Chain.Run
import Switchboard.Proofs.Chain.Step
import Switchboard.Proofs.Registry

/-!
The steps of a run as a list of moments: what each step that passed saw, and what it did.

* `runSteps_eq_ok` — all steps pass exactly when there is a trace with a moment for each;
* `Trace.take`, `trace_of_passes` — each moment begins where the one before it ended;
* `Trace.context` — the context that a step sees holds the outputs of the steps before it and no
  others;
* `Trace.calls` — each step makes one call of its own.

Design notes: `Trace` is built from the front, as the steps are taken, so that the inductions follow
`runSteps`. What the statements about single moments need is read off by splitting a trace in two.
-/
namespace Switchboard.Chain

variable {L σ : Type}

/-- A step that passed: the session that it met, its input, its output, and the session when its
handler had answered. -/
structure Moment (σ : Type) where
  step : Config.Step
  before : Session σ
  input : Value
  output : Value
  after : Session σ

namespace Moment

/-- The session with the output recorded. -/
def next (m : Moment σ) (run : Nat) : Session σ := m.after.record run m.step m.output

/-- The call that the step itself makes. -/
def call (m : Moment σ) (request : Value) : Call :=
  ⟨m.step.endpoint, m.before.history.reveal m.input, request⟩

/-- The calls that its handler makes in turn. -/
def inner (m : Moment σ) : List Call := m.after.calls.drop (m.before.calls.length + 1)

end Moment

/-- The session after some moments, from the session in which the run was opened. -/
def sessionAfter (opened : Session σ) (run : Nat) (ms : List (Moment σ)) : Session σ :=
  (ms.getLast?.map (·.next run)).getD opened

/-- The context of a run after some moments: its payload and their outputs, in order, each under the
name of its step. -/
def contextAfter (payload : Value) (ms : List (Moment σ)) : Context :=
  ms.foldl (fun c m => c.record m.output m.step.name) (.start payload)

/-- Moments that follow each other from one session to another. -/
inductive Trace (call : Caller L σ) (registry : Registry (Handler L)) (run : Nat) (request : Value) :
    Session σ → List (Moment σ) → Session σ → Prop where
  | done (s : Session σ) : Trace call registry run request s [] s
  | step {m : Moment σ} {ms : List (Moment σ)} {t : Session σ}
      (hpasses : StepPasses call registry run request m.step m.before m.input m.output m.after)
      (hrest : Trace call registry run request (m.next run) ms t) :
      Trace call registry run request m.before (m :: ms) t

variable {call : Caller L σ} {registry : Registry (Handler L)} {run : Nat} {request : Value}

/-! ### Steps that all pass -/

/-- All steps pass exactly when there is a trace with a moment for each. -/
theorem runSteps_eq_ok {index : Nat} {steps : List Config.Step} {record final : Run}
    {s t : Session σ} (hopen : record.isOver = false) :
    runSteps call registry run request index steps record s = ((.ok (), final), t) ↔
      final = record.afterSteps index steps.length ∧
        ∃ ms, ms.map (·.step) = steps ∧ Trace call registry run request s ms t := by
  induction steps generalizing index record s with
  | nil =>
    rw [runSteps, List.length_nil, Run.afterSteps, Prod.mk.injEq, Prod.mk.injEq]
    constructor
    · rintro ⟨⟨-, rfl⟩, rfl⟩
      exact ⟨rfl, [], rfl, .done s⟩
    · rintro ⟨rfl, ms, hms, htrace⟩
      obtain rfl : ms = [] := List.map_eq_nil_iff.mp hms
      cases htrace
      exact ⟨⟨rfl, rfl⟩, rfl⟩
  | cons step rest ih =>
    rw [runSteps, Run.startStep_of_open hopen, List.length_cons, ← Run.afterSteps_startStep]
    constructor
    · intro h
      rcases hstep : runStep call registry run request index step s with ⟨e | output, u⟩
      · simp [hstep] at h
      · simp only [hstep] at h
        -- a run that has started a step is not over, so the induction applies to the rest
        obtain ⟨hfinal, ms, hms, htrace⟩ := (ih rfl).mp h
        obtain ⟨input, hpasses⟩ := runStep_eq_ok.mp hstep
        refine ⟨hfinal, ⟨step, s, input, output, u⟩ :: ms, by rw [List.map_cons, hms], ?_⟩
        exact Trace.step (m := ⟨step, s, input, output, u⟩) hpasses htrace
    · rintro ⟨hfinal, ms, hms, htrace⟩
      cases htrace with
      | done => simp at hms
      | @step m ms _ hpasses hrest =>
        rw [List.map_cons, List.cons.injEq] at hms
        obtain ⟨rfl, hms⟩ := hms
        have hstep : runStep call registry run request index m.step m.before
            = (.ok m.output, m.after) := runStep_eq_ok.mpr ⟨m.input, hpasses⟩
        simp only [hstep]
        exact (ih rfl).mpr ⟨hfinal, ms, hms, hrest⟩

/-! ### Moments of a trace -/

theorem sessionAfter_cons (opened : Session σ) (m : Moment σ) (ms : List (Moment σ)) :
    sessionAfter opened run (m :: ms) = sessionAfter (m.next run) run ms := by
  cases ms with
  | nil => rfl
  | cons m' ms =>
    rw [sessionAfter, sessionAfter, List.getLast?_cons_cons, List.getLast?_eq_some_getLast (by simp)]
    rfl

/-- A trace ends with the session after its last moment. -/
theorem Trace.last {s t : Session σ} {ms : List (Moment σ)}
    (h : Trace call registry run request s ms t) : t = sessionAfter s run ms := by
  induction h with
  | done s => rfl
  | step hpasses hrest ih => rw [ih, sessionAfter_cons]

theorem Trace.passes {s t : Session σ} {ms : List (Moment σ)}
    (h : Trace call registry run request s ms t) :
    ∀ m ∈ ms, StepPasses call registry run request m.step m.before m.input m.output m.after := by
  induction h with
  | done s => simp
  | step hpasses hrest ih => exact List.forall_mem_cons.mpr ⟨hpasses, ih⟩

/-- The moments up to one of them are a trace to where it begins. -/
theorem Trace.take {s t : Session σ} {ms : List (Moment σ)}
    (h : Trace call registry run request s ms t) {k : Nat} {m : Moment σ} (hk : ms[k]? = some m) :
    Trace call registry run request s (ms.take k) m.before := by
  induction h generalizing k with
  | done s => simp at hk
  | step hpasses hrest ih =>
    cases k with
    | zero =>
      obtain rfl := Option.some.inj hk
      exact .done _
    | succ k => exact .step hpasses (ih hk)

/-- A run that is open stays open while steps pass, and its context takes up their outputs. -/
theorem Trace.context {s t : Session σ} {ms : List (Moment σ)} (hcall : OnlyAdds call)
    (h : Trace call registry run request s ms t) (hrun : run < s.history.length) :
    run < t.history.length ∧
      t.history.context run
        = ms.foldl (fun c m => c.record m.output m.step.name) (s.history.context run) := by
  induction h with
  | done s => exact ⟨hrun, rfl⟩
  | @step m ms t hpasses hrest ih =>
    obtain ⟨entry, -, -, -, hinvoke, -⟩ := hpasses
    have hpre : m.before.history <+: m.after.history := by
      have hextends := hcall.invoke entry m.input request m.before
      rw [hinvoke] at hextends
      exact hextends.history
    -- what the handler did went on in runs opened later, so the record alone changes the context
    have hafter : run < m.after.history.length := Nat.lt_of_lt_of_le hrun hpre.length_le
    have hnext : (m.next run).history.context run
        = (m.before.history.context run).record m.output m.step.name := by
      rw [Moment.next, Session.record, History.context_record hafter,
        History.context_of_isPrefix hpre hrun]
    obtain ⟨hlength, hcontext⟩ := ih (by simpa [Moment.next, Session.record] using hafter)
    exact ⟨hlength, by rw [hcontext, hnext, List.foldl_cons]⟩

/-! ### Calls -/

/-- The calls during a step that passes: its own one first, then those of its handler. -/
theorem StepPasses.calls {m : Moment σ} (hcall : OnlyAdds call)
    (h : StepPasses call registry run request m.step m.before m.input m.output m.after) :
    m.after.calls = m.before.calls ++ m.call request :: m.inner := by
  obtain ⟨entry, hentry, -, -, hinvoke, -⟩ := h
  have hname : entry.name = m.step.endpoint := Registry.lookup_name hentry
  have hextends := hcall entry.handler m.input request (m.before.noted entry.name m.input request)
  rw [invoke_eq] at hinvoke
  rw [hinvoke, hname] at hextends
  -- the handler starts with the own call already noted, and only adds to that
  obtain ⟨inner, hinner⟩ := hextends.calls
  have hafter : m.after.calls = m.before.calls ++ m.call request :: inner := by
    rw [← hinner]
    exact List.append_assoc ..
  rw [Moment.inner, hafter, List.drop_length_add_append, List.drop_one, List.tail_cons]

/-- The calls during a trace. -/
theorem Trace.calls {s t : Session σ} {ms : List (Moment σ)} (hcall : OnlyAdds call)
    (h : Trace call registry run request s ms t) :
    t.calls = s.calls ++ ms.flatMap fun m => m.call request :: m.inner := by
  induction h with
  | done s => simp
  | @step m ms t hpasses hrest ih =>
    have hnext : (m.next run).calls = m.after.calls := rfl
    rw [ih, hnext, hpasses.calls hcall, List.flatMap_cons, List.append_assoc]

end Switchboard.Chain
