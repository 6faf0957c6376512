import Switchboard.Proofs.Chain.Trace

/-!
What makes a step fail, and how a run of steps comes to an end before its time.

* `Fault` — the ways in which a step can fail, by the phase in which each comes up;
* `StepFails`, `runStep_eq_error` — a step fails exactly when one phase fails and those before it went
  well;
* `runSteps_eq_error` — a run of steps fails exactly when it has a trace up to a step that fails.

Design notes: a phase is only looked at when those before it went well, so the constructors of
`StepFails` exclude each other, however many phases of a step are broken at once. Two of the faults are
not failures of a chain: a schema that cannot be checked to the end stops the whole execution.
-/
namespace Switchboard.Chain

variable {L σ : Type}

/-! ### Faults of steps -/

/-- What makes a step fail: its endpoint is not there; its template has no value; its input cannot be
checked, or is not taken; the handler fails; the output cannot be checked, or may not be given. -/
inductive Fault where
  | unregistered
  | inputTemplate (e : Template.Error)
  | inputUnchecked (why : Schema.Interruption)
  | inputRejected (reports : List Report)
  | handler (cause : Failure)
  | outputUnchecked (why : Schema.Interruption)
  | outputRejected (reports : List Report)

namespace Fault

/-- The failure of a step. -/
def failure (place : Place) : Fault → Failure
  | .unregistered => .unregistered place
  | .inputTemplate e => templateFailure (.inputTemplate place) e
  | .inputUnchecked why | .outputUnchecked why => .checking why
  | .inputRejected reports => .inputRejected place reports
  | .handler cause => .handler place cause
  | .outputRejected reports => .outputRejected place reports

/-- What a schema did not allow. -/
def details : Fault → List Report
  | .inputRejected reports | .outputRejected reports => reports
  | _ => []

/-- The failure behind a fault. -/
def cause? : Fault → Option Failure
  | .inputTemplate e => some (.template e)
  | .handler cause => some cause
  | _ => none

/-- Whether the handler of the step had been called. -/
def isPastCall : Fault → Bool
  | .handler _ | .outputUnchecked _ | .outputRejected _ => true
  | _ => false

/-- The failure of a chain at a step tells of the step and of what went wrong there. -/
theorem failure_spec {place : Place} {fault : Fault}
    (h : (fault.failure place).isOfChain = true) :
    (fault.failure place).place? = some place ∧ (fault.failure place).details = fault.details ∧
      (fault.failure place).cause? = fault.cause? := by
  cases fault with
  | inputTemplate e =>
    -- an index with too many digits is no fault of the template, and then the failure is no chain's
    by_cases he : e.isTemplateFault
    · simp [failure, templateFailure, he, Failure.place?, Failure.details, Failure.cause?, details,
        cause?]
    · simp [failure, templateFailure, he, Failure.isOfChain] at h
  | inputUnchecked why | outputUnchecked why => simp [failure, Failure.isOfChain] at h
  | unregistered | inputRejected reports | handler cause | outputRejected reports =>
    exact ⟨rfl, rfl, rfl⟩

end Fault

/-- A step fails, from the session `s` to the session `t`. -/
inductive StepFails (call : Caller L σ) (registry : Registry (Handler L)) (run : Nat)
    (request : Value) (step : Config.Step) (s : Session σ) : Fault → Session σ → Prop where
  | unregistered (hentry : registry.lookup step.endpoint = none) :
      StepFails call registry run request step s .unregistered s
  | inputTemplate {entry : Entry (Handler L)} {e : Template.Error}
      (hentry : registry.lookup step.endpoint = some entry)
      (hcompile : Template.compile s.history run step.input = .error e) :
      StepFails call registry run request step s (.inputTemplate e) s
  | inputUnchecked {entry : Entry (Handler L)} {input : Value} {why : Schema.Interruption}
      (hentry : registry.lookup step.endpoint = some entry)
      (hcompile : Template.compile s.history run step.input = .ok input)
      (hreports : rejections entry.input s.history input = .error why) :
      StepFails call registry run request step s (.inputUnchecked why) s
  | inputRejected {entry : Entry (Handler L)} {input : Value} {reports : List Report}
      (hentry : registry.lookup step.endpoint = some entry)
      (hcompile : Template.compile s.history run step.input = .ok input)
      (hreports : rejections entry.input s.history input = .ok reports) (hne : reports ≠ []) :
      StepFails call registry run request step s (.inputRejected reports) s
  | handler {entry : Entry (Handler L)} {input : Value} {cause : Failure} {t : Session σ}
      (hentry : registry.lookup step.endpoint = some entry)
      (hcompile : Template.compile s.history run step.input = .ok input)
      (hadmits : Admits entry.input (s.history.reveal input))
      (hcall : invoke call entry input request s = (.error cause, t)) :
      StepFails call registry run request step s (.handler cause) t
  | outputUnchecked {entry : Entry (Handler L)} {input output : Value}
      {why : Schema.Interruption} {t : Session σ}
      (hentry : registry.lookup step.endpoint = some entry)
      (hcompile : Template.compile s.history run step.input = .ok input)
      (hadmits : Admits entry.input (s.history.reveal input))
      (hcall : invoke call entry input request s = (.ok output, t))
      (hreports : rejections entry.output t.history output = .error why) :
      StepFails call registry run request step s (.outputUnchecked why) t
  | outputRejected {entry : Entry (Handler L)} {input output : Value} {reports : List Report}
      {t : Session σ}
      (hentry : registry.lookup step.endpoint = some entry)
      (hcompile : Template.compile s.history run step.input = .ok input)
      (hadmits : Admits entry.input (s.history.reveal input))
      (hcall : invoke call entry input request s = (.ok output, t))
      (hreports : rejections entry.output t.history output = .ok reports) (hne : reports ≠ []) :
      StepFails call registry run request step s (.outputRejected reports) t

variable {call : Caller L σ} {registry : Registry (Handler L)} {run : Nat} {request : Value}

/-- A value does not pass a check when it cannot be checked, or when there are reports on it. -/
theorem allowed_eq_error {schema : Option Schema} {rejected : List Report → Failure} {h : History}
    {v : Value} {e : Failure} :
    allowed schema rejected h v = .error e ↔
      (∃ why, rejections schema h v = .error why ∧ e = .checking why) ∨
        ∃ reports, rejections schema h v = .ok reports ∧ reports ≠ [] ∧ e = rejected reports := by
  rw [allowed]
  cases rejections schema h v with
  | error why => simp [eq_comm]
  | ok reports =>
    cases reports with
    | nil => simp
    | cons report rest => simp [eq_comm]

theorem stepInput_eq_error {h : History} {place : Place} {template : Value}
    {schema : Option Schema} {e : Failure} :
    stepInput h run place template schema = .error e ↔
      (∃ fault, Template.compile h run template = .error fault ∧
        e = templateFailure (.inputTemplate place) fault) ∨
      ∃ input, Template.compile h run template = .ok input ∧
        allowed schema (.inputRejected place) h input = .error e := by
  rw [stepInput]
  cases Template.compile h run template with
  | error fault => simp [Except.mapError, bind, Except.bind, eq_comm]
  | ok input => simp [Except.mapError, bind, Except.bind]

/-- A step fails exactly when one of its phases does, after those before it went well. -/
theorem runStep_eq_error {index : Nat} {step : Config.Step} {s t : Session σ} {e : Failure} :
    runStep call registry run request index step s = (.error e, t) ↔
      ∃ fault, StepFails call registry run request step s fault t ∧
        e = fault.failure (placeOf index step) := by
  constructor
  · intro h
    have hends : StepEnds call registry run request index step s
        (runStep call registry run request index step s) := runStep_ends index step s
    rw [h] at hends
    cases hends with
    | unregistered hentry => exact ⟨_, .unregistered hentry, rfl⟩
    | input hentry hinput =>
      rcases stepInput_eq_error.mp hinput with ⟨fault, hcompile, rfl⟩ | ⟨input, hcompile, hallowed⟩
      · exact ⟨_, .inputTemplate hentry hcompile, rfl⟩
      · rcases allowed_eq_error.mp hallowed with ⟨why, hreports, rfl⟩ | ⟨reports, hreports, hne, rfl⟩
        · exact ⟨_, .inputUnchecked hentry hcompile hreports, rfl⟩
        · exact ⟨_, .inputRejected hentry hcompile hreports hne, rfl⟩
    | handler hentry hinput hcall =>
      obtain ⟨hcompile, hadmits⟩ := stepInput_eq_ok.mp hinput
      exact ⟨_, .handler hentry hcompile hadmits hcall, rfl⟩
    | output hentry hinput hcall houtput =>
      obtain ⟨hcompile, hadmits⟩ := stepInput_eq_ok.mp hinput
      rcases allowed_eq_error.mp houtput with ⟨why, hreports, rfl⟩ | ⟨reports, hreports, hne, rfl⟩
      · exact ⟨_, .outputUnchecked hentry hcompile hadmits hcall hreports, rfl⟩
      · exact ⟨_, .outputRejected hentry hcompile hadmits hcall hreports hne, rfl⟩
  · rintro ⟨fault, hfails, rfl⟩
    -- what was said of the input as a whole, from what was said of its template and its check
    have hok {entry : Entry (Handler L)} {input : Value}
        (hcompile : Template.compile s.history run step.input = .ok input)
        (hadmits : Admits entry.input (s.history.reveal input)) :
        stepInput s.history run (placeOf index step) step.input entry.input = .ok input :=
      stepInput_eq_ok.mpr ⟨hcompile, hadmits⟩
    cases hfails with
    | unregistered hentry => simp only [runStep, hentry, Fault.failure]
    | @inputTemplate entry e hentry hcompile =>
      have hinput : stepInput s.history run (placeOf index step) step.input entry.input
          = .error (templateFailure (.inputTemplate (placeOf index step)) e) :=
        stepInput_eq_error.mpr (.inl ⟨e, hcompile, rfl⟩)
      simp only [runStep, hentry, hinput, Fault.failure]
    | @inputUnchecked entry input why hentry hcompile hreports =>
      have hinput : stepInput s.history run (placeOf index step) step.input entry.input
          = .error (.checking why) :=
        stepInput_eq_error.mpr
          (.inr ⟨input, hcompile, allowed_eq_error.mpr (.inl ⟨why, hreports, rfl⟩)⟩)
      simp only [runStep, hentry, hinput, Fault.failure]
    | @inputRejected entry input reports hentry hcompile hreports hne =>
      have hinput : stepInput s.history run (placeOf index step) step.input entry.input
          = .error (.inputRejected (placeOf index step) reports) :=
        stepInput_eq_error.mpr
          (.inr ⟨input, hcompile, allowed_eq_error.mpr (.inr ⟨reports, hreports, hne, rfl⟩)⟩)
      simp only [runStep, hentry, hinput, Fault.failure]
    | handler hentry hcompile hadmits hcall =>
      simp only [runStep, hentry, hok hcompile hadmits, hcall, Fault.failure]
    | @outputUnchecked entry input output why t hentry hcompile hadmits hcall hreports =>
      have hallowed : allowed entry.output (.outputRejected (placeOf index step)) t.history output
          = .error (.checking why) := allowed_eq_error.mpr (.inl ⟨why, hreports, rfl⟩)
      simp only [runStep, hentry, hok hcompile hadmits, hcall, hallowed, Fault.failure]
    | @outputRejected entry input output reports t hentry hcompile hadmits hcall hreports hne =>
      have hallowed : allowed entry.output (.outputRejected (placeOf index step)) t.history output
          = .error (.outputRejected (placeOf index step) reports) :=
        allowed_eq_error.mpr (.inr ⟨reports, hreports, hne, rfl⟩)
      simp only [runStep, hentry, hok hcompile hadmits, hcall, hallowed, Fault.failure]

/-! ### Calls of a step that fails -/

/-- A call is noted in front of what its handler calls in turn. -/
theorem invoke_calls (hcall : OnlyAdds call) (entry : Entry (Handler L))
    (payload request : Value) (s : Session σ) :
    ∃ inner, (invoke call entry payload request s).2.calls
      = s.calls ++ ⟨entry.name, s.history.reveal payload, request⟩ :: inner := by
  rw [invoke_eq]
  obtain ⟨inner, hinner⟩ :=
    (hcall entry.handler payload request (s.noted entry.name payload request)).calls
  exact ⟨inner, by rw [← hinner, Session.noted, List.append_assoc, List.singleton_append]⟩

/-- A step that fails before its call leaves everything as it was. -/
theorem StepFails.eq_of_not_isPastCall {step : Config.Step} {s t : Session σ} {fault : Fault}
    (h : StepFails call registry run request step s fault t) (hfault : fault.isPastCall = false) :
    t = s := by
  cases h <;> first | rfl | simp [Fault.isPastCall] at hfault

/-- A step that fails after its call has made it with the value of its template, once. -/
theorem StepFails.invoked {step : Config.Step} {s t : Session σ} {fault : Fault}
    (h : StepFails call registry run request step s fault t) (hfault : fault.isPastCall = true) :
    ∃ entry input, registry.lookup step.endpoint = some entry ∧
      Template.compile s.history run step.input = .ok input ∧
        Admits entry.input (s.history.reveal input) ∧
          (invoke call entry input request s).2 = t := by
  cases h with
  | unregistered | inputTemplate | inputUnchecked | inputRejected =>
    simp [Fault.isPastCall] at hfault
  | handler hentry hcompile hadmits hcall | outputUnchecked hentry hcompile hadmits hcall
  | outputRejected hentry hcompile hadmits hcall =>
    exact ⟨_, _, hentry, hcompile, hadmits, by rw [hcall]⟩

/-! ### Runs of steps -/

/-- A run of steps fails exactly when some of them pass and the one behind them fails; those further
behind are not reached. -/
theorem runSteps_eq_error {index : Nat} {steps : List Config.Step} {record final : Run}
    {s t : Session σ} {e : Failure} (hopen : record.isOver = false) :
    runSteps call registry run request index steps record s = ((.error e, final), t) ↔
      ∃ ms step rest u fault, steps = ms.map (·.step) ++ step :: rest ∧
        Trace call registry run request s ms u ∧
          StepFails call registry run request step u fault t ∧
            e = fault.failure (placeOf (index + ms.length) step) ∧
              final = record.afterSteps index (ms.length + 1) := by
  induction steps generalizing index record s with
  | nil => simp [runSteps]
  | cons first others ih =>
    rw [runSteps, Run.startStep_of_open hopen]
    rcases hstep : runStep call registry run request index first s with ⟨e' | output, v⟩
    · -- the first step fails, so there are no moments before it
      simp only [Prod.mk.injEq, Except.error.injEq]
      constructor
      · rintro ⟨⟨rfl, rfl⟩, rfl⟩
        obtain ⟨fault, hfails, rfl⟩ := runStep_eq_error.mp hstep
        exact ⟨[], first, others, s, fault, rfl, .done s, hfails, rfl, rfl⟩
      · rintro ⟨ms, step, rest, u, fault, hsteps, htrace, hfails, rfl, rfl⟩
        cases htrace with
        | done =>
          obtain ⟨rfl, -⟩ := List.cons.inj hsteps
          have hsame := hstep.symm.trans (runStep_eq_error.mpr ⟨fault, hfails, rfl⟩)
          obtain ⟨he, rfl⟩ := Prod.mk.inj hsame
          exact ⟨⟨Except.error.inj he, rfl⟩, rfl⟩
        | @step m ms _ hpasses hrest =>
          obtain ⟨rfl, -⟩ := List.cons.inj hsteps
          simp [runStep_eq_ok.mpr ⟨m.input, hpasses⟩] at hstep
    · -- the first step passes and is the first moment
      dsimp only
      rw [ih rfl]
      constructor
      · rintro ⟨ms, step, rest, u, fault, rfl, htrace, hfails, rfl, rfl⟩
        obtain ⟨input, hpasses⟩ := runStep_eq_ok.mp hstep
        refine ⟨⟨first, s, input, output, v⟩ :: ms, step, rest, u, fault, rfl,
          Trace.step (m := ⟨first, s, input, output, v⟩) hpasses htrace, hfails, ?_, ?_⟩
        · rw [List.length_cons, Nat.add_right_comm, Nat.add_assoc]
        · rw [List.length_cons, Run.afterSteps_startStep]
      · rintro ⟨ms, step, rest, u, fault, hsteps, htrace, hfails, rfl, rfl⟩
        cases htrace with
        | done =>
          obtain ⟨rfl, -⟩ := List.cons.inj hsteps
          simp [runStep_eq_error.mpr ⟨fault, hfails, rfl⟩] at hstep
        | @step m ms _ hpasses hrest =>
          rw [List.map_cons, List.cons_append] at hsteps
          obtain ⟨rfl, rfl⟩ := List.cons.inj hsteps
          have hsame := hstep.symm.trans (runStep_eq_ok.mpr ⟨m.input, hpasses⟩)
          obtain ⟨houtput, rfl⟩ := Prod.mk.inj hsame
          obtain rfl := Except.ok.inj houtput
          refine ⟨ms, step, rest, u, fault, rfl, hrest, hfails, ?_, ?_⟩
          · rw [List.length_cons, Nat.add_right_comm, Nat.add_assoc]
          · rw [List.length_cons, Run.afterSteps_startStep]

end Switchboard.Chain
