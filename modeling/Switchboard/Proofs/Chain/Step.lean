import Switchboard.Chain.Execute
import Switchboard.Proofs.Outcome
import Switchboard.Proofs.Template.History

/-!
What one step of a chain can do, and what follows from it for whole runs.

* `runStep_ends` — all that a step can come to; `runStep_eq_ok` — when it gives an output;
* `execute_preserves` — what holds of a session before a run holds after it, if calls of the endpoints
  of the steps and records of their outputs keep it;
* `callHandler_onlyAdds` — handlers only add to what a session holds;
* `execute_congr` — a run depends on callers only in the handlers that its steps name.

Design notes: proofs about runs go through `runStep_ends` and `runStep_eq_ok` and do not open `runStep`
again. The inductions over nested chains are over the fuel of `callHandler`, with a predicate on
sessions that `execute_preserves` carries through each run.
-/
namespace Switchboard.Chain

variable {L σ : Type}

/-! ### Calls -/

/-- The session with a call noted in it. -/
def Session.noted (s : Session σ) (name : String) (payload request : Value) : Session σ :=
  { s with calls := s.calls ++ [⟨name, s.history.reveal payload, request⟩] }

/-- A call is noted, and then its handler is called. -/
theorem invoke_eq (call : Caller L σ) (entry : Entry (Handler L)) (payload request : Value)
    (s : Session σ) :
    invoke call entry payload request s
      = call entry.handler payload request (s.noted entry.name payload request) := rfl

/-- A leaf is called the same way at any depth, and changes nothing but its own state. -/
theorem callHandler_leaf (leaves : Leaves L σ) (registry : Registry (Handler L)) (fuel : Nat)
    (handler : L) (payload request : Value) (s : Session σ) :
    callHandler leaves registry fuel (.leaf handler) payload request s
      = ((leaves handler s.history payload request s.state).1,
          { s with state := (leaves handler s.history payload request s.state).2 }) := by
  rw [callHandler]

/-! ### Values that schemas allow -/

/-- A schema, if there is one, has nothing against a value. -/
def Admits (schema : Option Schema) (v : Value) : Prop :=
  ∀ s, schema = some s → s.reports v = .ok []

theorem admits_none (v : Value) : Admits none v := by
  intro s hs
  exact absurd hs (by simp)

theorem admits_some {s : Schema} {v : Value} : Admits (some s) v ↔ s.reports v = .ok [] := by
  simp [Admits]

theorem rejections_eq_nil {schema : Option Schema} {h : History} {v : Value} :
    rejections schema h v = .ok [] ↔ Admits schema (h.reveal v) := by
  cases schema with
  | none => exact ⟨fun _ => admits_none _, fun _ => rfl⟩
  | some s => exact admits_some.symm

/-- A value passes a check unchanged, exactly when the schema admits it. -/
theorem allowed_eq_ok {schema : Option Schema} {rejected : List Report → Failure} {h : History}
    {v w : Value} : allowed schema rejected h v = .ok w ↔ w = v ∧ Admits schema (h.reveal v) := by
  rw [allowed, ← rejections_eq_nil]
  cases hrejections : rejections schema h v with
  | error why => simp
  | ok reports =>
    cases reports with
    | nil => simp [eq_comm]
    | cons report rest => simp

/-! ### One step -/

section Step

variable (call : Caller L σ) (registry : Registry (Handler L)) (run : Nat) (request : Value)

/-- A step goes well, from the session `s` to the session `t`: its endpoint is there, its template has
the value `input`, which the endpoint takes, and the handler answers with `output`, which the endpoint
may give. -/
def StepPasses (step : Config.Step) (s : Session σ) (input output : Value) (t : Session σ) : Prop :=
  ∃ entry, registry.lookup step.endpoint = some entry ∧
    Template.compile s.history run step.input = .ok input ∧
    Admits entry.input (s.history.reveal input) ∧
    invoke call entry input request s = (.ok output, t) ∧
    Admits entry.output (t.history.reveal output)

variable {call registry run request}

theorem stepInput_eq_ok {h : History} {place : Place} {template : Value} {schema : Option Schema}
    {input : Value} :
    stepInput h run place template schema = .ok input ↔
      Template.compile h run template = .ok input ∧ Admits schema (h.reveal input) := by
  rw [stepInput, bind_eq_ok]
  simp only [mapError_eq_ok, allowed_eq_ok]
  constructor
  · rintro ⟨v, hcompile, rfl, hadmits⟩
    exact ⟨hcompile, hadmits⟩
  · rintro ⟨hcompile, hadmits⟩
    exact ⟨input, hcompile, rfl, hadmits⟩

/-- All that a step can come to: its endpoint is not there; its input fails; its handler fails; its
output is not allowed; or it passes. -/
inductive StepEnds (call : Caller L σ) (registry : Registry (Handler L)) (run : Nat)
    (request : Value) (index : Nat) (step : Config.Step) (s : Session σ) :
    Except Failure Value × Session σ → Prop where
  | unregistered (hentry : registry.lookup step.endpoint = none) :
      StepEnds call registry run request index step s
        (.error (.unregistered (placeOf index step)), s)
  | input {entry : Entry (Handler L)} {e : Failure}
      (hentry : registry.lookup step.endpoint = some entry)
      (hinput : stepInput s.history run (placeOf index step) step.input entry.input = .error e) :
      StepEnds call registry run request index step s (.error e, s)
  | handler {entry : Entry (Handler L)} {input : Value} {cause : Failure} {t : Session σ}
      (hentry : registry.lookup step.endpoint = some entry)
      (hinput : stepInput s.history run (placeOf index step) step.input entry.input = .ok input)
      (hcall : invoke call entry input request s = (.error cause, t)) :
      StepEnds call registry run request index step s
        (.error (.handler (placeOf index step) cause), t)
  | output {entry : Entry (Handler L)} {input output : Value} {e : Failure} {t : Session σ}
      (hentry : registry.lookup step.endpoint = some entry)
      (hinput : stepInput s.history run (placeOf index step) step.input entry.input = .ok input)
      (hcall : invoke call entry input request s = (.ok output, t))
      (houtput : allowed entry.output (.outputRejected (placeOf index step)) t.history output
        = .error e) :
      StepEnds call registry run request index step s (.error e, t)
  | passes {input output : Value} {t : Session σ}
      (hpasses : StepPasses call registry run request step s input output t) :
      StepEnds call registry run request index step s (.ok output, t)

theorem runStep_ends (index : Nat) (step : Config.Step) (s : Session σ) :
    StepEnds call registry run request index step s
      (runStep call registry run request index step s) := by
  rw [runStep]
  cases hentry : registry.lookup step.endpoint with
  | none => exact .unregistered hentry
  | some entry =>
    simp only
    cases hinput : stepInput s.history run (placeOf index step) step.input entry.input with
    | error e => exact .input hentry hinput
    | ok input =>
      rcases hcall : invoke call entry input request s with ⟨cause | output, t⟩
      · simp only [hcall]
        exact .handler hentry hinput hcall
      · simp only [hcall]
        cases hallowed : allowed entry.output (.outputRejected (placeOf index step)) t.history
            output with
        | error e => exact .output hentry hinput hcall hallowed
        | ok v =>
          obtain ⟨rfl, houtput⟩ := allowed_eq_ok.mp hallowed
          obtain ⟨hcompile, hadmits⟩ := stepInput_eq_ok.mp hinput
          exact .passes ⟨entry, hentry, hcompile, hadmits, hcall, houtput⟩

/-- A step gives an output exactly when it passes. -/
theorem runStep_eq_ok {index : Nat} {step : Config.Step} {s t : Session σ} {output : Value} :
    runStep call registry run request index step s = (.ok output, t) ↔
      ∃ input, StepPasses call registry run request step s input output t := by
  constructor
  · intro h
    have hends : StepEnds call registry run request index step s
        (runStep call registry run request index step s) := runStep_ends index step s
    rw [h] at hends
    cases hends with
    | passes hpasses => exact ⟨_, hpasses⟩
  · rintro ⟨input, entry, hentry, hcompile, hadmits, hcall, houtput⟩
    have hinput : stepInput s.history run (placeOf index step) step.input entry.input = .ok input :=
      stepInput_eq_ok.mpr ⟨hcompile, hadmits⟩
    have hallowed : allowed entry.output (.outputRejected (placeOf index step)) t.history output
        = .ok output := allowed_eq_ok.mpr ⟨rfl, houtput⟩
    simp only [runStep, hentry, hinput, hcall, hallowed]

end Step

/-! ### What runs keep -/

/-- Calls of the endpoints that steps name, and records of the outputs of steps that pass, keep a
property of sessions. -/
structure Keeps (call : Caller L σ) (registry : Registry (Handler L)) (run : Nat) (request : Value)
    (steps : List Config.Step) (P : Session σ → Prop) : Prop where
  invoke : ∀ step ∈ steps, ∀ entry, registry.lookup step.endpoint = some entry →
    ∀ input s, Admits entry.input (s.history.reveal input) → P s →
      P (invoke call entry input request s).2
  record : ∀ step ∈ steps, ∀ s input output t,
    StepPasses call registry run request step s input output t → P t → P (t.record run step output)

section Keeps

variable {call : Caller L σ} {registry : Registry (Handler L)} {run : Nat} {request : Value}
  {P : Session σ → Prop}

theorem Keeps.runStep {steps : List Config.Step} (h : Keeps call registry run request steps P)
    {step : Config.Step} (hstep : step ∈ steps) (index : Nat) {s : Session σ} (hs : P s) :
    P (runStep call registry run request index step s).2 := by
  have hinvoke : ∀ entry, registry.lookup step.endpoint = some entry → ∀ input,
      stepInput s.history run (placeOf index step) step.input entry.input = .ok input →
        P (Chain.invoke call entry input request s).2 :=
    fun entry hentry input hinput =>
      h.invoke step hstep entry hentry input s (stepInput_eq_ok.mp hinput).2 hs
  have hends : StepEnds call registry run request index step s
      (Chain.runStep call registry run request index step s) := runStep_ends index step s
  generalize Chain.runStep call registry run request index step s = ending at hends
  cases hends with
  | unregistered hentry => exact hs
  | input hentry hinput => exact hs
  | handler hentry hinput hcall =>
    have := hinvoke _ hentry _ hinput
    rwa [hcall] at this
  | output hentry hinput hcall houtput =>
    have := hinvoke _ hentry _ hinput
    rwa [hcall] at this
  | passes hpasses =>
    obtain ⟨entry, hentry, hcompile, hadmits, hcall, houtput⟩ := hpasses
    have := h.invoke step hstep entry hentry _ s hadmits hs
    rwa [hcall] at this

theorem Keeps.runSteps {steps : List Config.Step} (h : Keeps call registry run request steps P)
    (index : Nat) (record : Run) {s : Session σ} (hs : P s) :
    P (runSteps call registry run request index steps record s).2 := by
  induction steps generalizing index record s with
  | nil => exact hs
  | cons step rest ih =>
    rw [Chain.runSteps]
    cases record.startStep index with
    | error e => exact hs
    | ok started =>
      have hone := h.runStep List.mem_cons_self index hs
      rcases hrun : Chain.runStep call registry run request index step s with ⟨e | output, t⟩
      · simpa [hrun] using hone
      · obtain ⟨input, hpasses⟩ := runStep_eq_ok.mp hrun
        rw [hrun] at hone
        have hrest : Keeps call registry run request rest P :=
          ⟨fun step hstep => h.invoke step (List.mem_cons_of_mem _ hstep),
            fun step hstep => h.record step (List.mem_cons_of_mem _ hstep)⟩
        exact ih hrest (index + 1) started
          (h.record step List.mem_cons_self s input output t hpasses hone)

/-- What holds of a session when a run is opened holds after the run. -/
theorem execute_preserves {chain : Config.Chain} {payload : Value} {s : Session σ}
    (h : Keeps call registry s.history.length request chain.steps P)
    (hopen : P (s.openRun payload)) (record : Run) :
    P (execute call registry chain payload request record s).2 := by
  have hsteps := h.runSteps 0 record hopen
  rw [execute]
  rcases hrun : Chain.runSteps call registry s.history.length request 0 chain.steps record
      (s.openRun payload) with ⟨⟨e | _, _⟩, t⟩
  · simpa [hrun] using hsteps
  · simpa [hrun] using hsteps

end Keeps

/-! ### Sessions only grow -/

/-- What a session holds is still there later: the contexts of all runs, the calls and the outputs
kept. -/
structure Extends (s t : Session σ) : Prop where
  history : s.history <+: t.history
  calls : s.calls <+: t.calls
  kept : s.kept <+: t.kept

theorem Extends.refl (s : Session σ) : Extends s s :=
  ⟨List.prefix_rfl, List.prefix_rfl, List.prefix_rfl⟩

theorem Extends.trans {s t u : Session σ} (h : Extends s t) (h' : Extends t u) : Extends s u :=
  ⟨h.history.trans h'.history, h.calls.trans h'.calls, h.kept.trans h'.kept⟩

/-- A record in a later run adds to what was there before that run. -/
theorem Extends.record {s t : Session σ} (h : Extends s t) {run : Nat}
    (hrun : s.history.length ≤ run) (step : Config.Step) (output : Value) :
    Extends s (t.record run step output) :=
  ⟨History.isPrefix_record h.history hrun output step.name, h.calls,
    h.kept.trans (List.prefix_append _ _)⟩

theorem extends_openRun (s : Session σ) (input : Value) : Extends s (s.openRun input) :=
  ⟨List.prefix_append _ _, List.prefix_rfl, List.prefix_rfl⟩

/-- A caller whose handlers only add to what a session holds. -/
def OnlyAdds (call : Caller L σ) : Prop :=
  ∀ handler payload request s, Extends s (call handler payload request s).2

theorem OnlyAdds.invoke {call : Caller L σ} (h : OnlyAdds call) (entry : Entry (Handler L))
    (payload request : Value) (s : Session σ) :
    Extends s (invoke call entry payload request s).2 := by
  have hnoted : Extends s (s.noted entry.name payload request) :=
    ⟨List.prefix_rfl, List.prefix_append _ _, List.prefix_rfl⟩
  exact hnoted.trans (h entry.handler payload request _)

theorem OnlyAdds.execute {call : Caller L σ} (h : OnlyAdds call) (registry : Registry (Handler L))
    (chain : Config.Chain) (payload request : Value) (record : Run) (s : Session σ) :
    Extends s (execute call registry chain payload request record s).2 := by
  refine execute_preserves ⟨fun _ _ entry _ input t _ ht => ?_, fun step _ t _ output u _ hu => ?_⟩
    (extends_openRun s payload) record
  · exact ht.trans (h.invoke entry input request t)
  · exact hu.record (Nat.le_refl _) step output

theorem extends_leaf (leaves : Leaves L σ) (registry : Registry (Handler L)) (fuel : Nat)
    (handler : L) (payload request : Value) (s : Session σ) :
    Extends s (callHandler leaves registry fuel (.leaf handler) payload request s).2 := by
  rw [callHandler_leaf]
  exact ⟨List.prefix_rfl, List.prefix_rfl, List.prefix_rfl⟩

/-- Handlers only add to what a session holds, however deep chains are nested. -/
theorem callHandler_onlyAdds (leaves : Leaves L σ) (registry : Registry (Handler L)) (fuel : Nat) :
    OnlyAdds (callHandler leaves registry fuel) := by
  induction fuel with
  | zero =>
    intro handler payload request s
    cases handler with
    | leaf handler => exact extends_leaf leaves registry 0 handler payload request s
    | chain chain =>
      -- no fuel is left, so the chain is refused and the session stays
      rw [callHandler]
      exact .refl s
  | succ fuel ih =>
    intro handler payload request s
    cases handler with
    | leaf handler => exact extends_leaf leaves registry _ handler payload request s
    | chain chain =>
      rw [callHandler]
      exact ih.execute registry chain payload request .fresh s

/-! ### What chains call -/

/-- Endpoints that call each other only: each of the `known` names is registered, and the steps of the
chains among them have known names again. -/
structure Closed (registry : Registry (Handler L)) (known : List String) : Prop where
  registered : ∀ name ∈ known, ∃ entry, registry.lookup name = some entry
  steps : ∀ name ∈ known, ∀ entry, registry.lookup name = some entry → ∀ c,
    entry.handler = .chain c → ∀ step ∈ c.steps, step.endpoint ∈ known

/-- A run depends on callers only in the handlers that its steps name. -/
theorem execute_congr {call call' : Caller L σ} {registry : Registry (Handler L)}
    {chain : Config.Chain}
    (h : ∀ step ∈ chain.steps, ∀ entry, registry.lookup step.endpoint = some entry →
      call entry.handler = call' entry.handler)
    (payload request : Value) (record : Run) (s : Session σ) :
    execute call registry chain payload request record s
      = execute call' registry chain payload request record s := by
  have hstep : ∀ step ∈ chain.steps, ∀ run index t,
      runStep call registry run request index step t
        = runStep call' registry run request index step t := by
    intro step hmem run index t
    rw [runStep, runStep]
    cases hentry : registry.lookup step.endpoint with
    | none => rfl
    | some entry => simp only [invoke, h step hmem entry hentry]
  have hsteps : ∀ steps ⊆ chain.steps, ∀ run index record t,
      runSteps call registry run request index steps record t
        = runSteps call' registry run request index steps record t := by
    intro steps
    induction steps with
    | nil => intro _ _ _ _ _; rfl
    | cons step rest ih =>
      intro hsub run index record t
      obtain ⟨hmem, hrest⟩ := List.cons_subset.mp hsub
      simp only [runSteps, hstep step hmem, ih hrest]
  simp only [execute, hsteps chain.steps (List.Subset.refl _)]

end Switchboard.Chain
