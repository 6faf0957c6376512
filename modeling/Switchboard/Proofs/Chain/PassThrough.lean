import Switchboard.Proofs.Chain.Failing

/-!
A chain that passes its payload through to one endpoint and gives what it answers.

* `Shows`, `Answers` — what an answer comes to, leaving aside which runs its collections belong to;
* `Deterministic` — a handler that answers a payload alike in every session, and `deterministic_leaf`,
  that leaves are where they look at the payload only;
* `Verdict` — what becomes of a payload at an endpoint: checked, answered, and the answer checked;
* `verdict_eq_iff` — the verdict is the one that says what is so;
* `passThrough_answers` — the chain answers with the verdict of its endpoint, as a step tells of it.

Design notes: two runs of one handler number the runs that they open differently, so that what they give
may be different references to collections that hold the same. Therefore answers are compared by what
they show, and an output has to show it in every session that leaves the handler's own runs alone:
between the call and the answer of a chain its own context takes up the output.
-/
namespace Switchboard.Chain

variable {L σ : Type}

/-! ### Answers -/

/-- After what went on from the session `s` to the session `t`, the value `output` shows `data`: it does
so in every history in which the runs that were opened on the way are as they are in `t`. -/
def Shows (s t : Session σ) (output data : Value) : Prop :=
  ∀ h : History, h.length = t.history.length →
    (∀ run, s.history.length ≤ run → h.context run = t.history.context run) → h.reveal output = data

/-- What a handler is called with comes to: data that its output shows, or its failure. -/
inductive Answers (call : Caller L σ) (handler : Handler L) (payload request : Value)
    (s : Session σ) : Except Failure Value → Prop where
  | gives {output data : Value} {t : Session σ}
      (hcall : call handler payload request s = (.ok output, t)) (hshows : Shows s t output data) :
      Answers call handler payload request s (.ok data)
  | fails {e : Failure} {t : Session σ}
      (hcall : call handler payload request s = (.error e, t)) :
      Answers call handler payload request s (.error e)

/-- A handler whose answer to a payload depends on nothing that happened before, and is the same however
much deeper than the registry has entries calls may go. The latter is so wherever chains do not come
back to themselves (`Site.build_nests_within_chains`). -/
def Deterministic (leaves : Leaves L σ) (registry : Registry (Handler L)) (handler : Handler L)
    (payload request : Value) : Prop :=
  ∃ answer, ∀ fuel, registry.size ≤ fuel → ∀ s,
    Answers (callHandler leaves registry fuel) handler payload request s answer

/-- A leaf that answers a payload alike whatever happened before is deterministic in it. -/
theorem deterministic_leaf {leaves : Leaves L σ} (registry : Registry (Handler L)) {handler : L}
    {payload request : Value} {answer : Except Failure Value}
    (hanswer : ∀ history state, (leaves handler history payload request state).1 = answer)
    (hplain : ∀ data, answer = .ok data → ∀ h : History, h.reveal data = data) :
    Deterministic leaves registry (.leaf handler) payload request := by
  refine ⟨answer, fun fuel _ s => ?_⟩
  have hcall := callHandler_leaf leaves registry fuel handler payload request s
  rw [hanswer] at hcall
  cases answer with
  | error e => exact .fails hcall
  | ok data => exact .gives hcall fun h _ _ => hplain data rfl h

/-! ### Verdicts -/

/-- What a schema, if there is one, does not allow in data. -/
def reportsOn (schema : Option Schema) (data : Value) : Except Schema.Interruption (List Report) :=
  match schema with
  | none => .ok []
  | some schema => schema.reports data

theorem rejections_eq (schema : Option Schema) (h : History) (v : Value) :
    rejections schema h v = reportsOn schema (h.reveal v) := by
  cases schema <;> rfl

theorem reportsOn_eq_nil {schema : Option Schema} {data : Value} :
    reportsOn schema data = .ok [] ↔ Admits schema data := by
  cases schema with
  | none => exact ⟨fun _ => admits_none _, fun _ => rfl⟩
  | some s => exact admits_some.symm

/-- What becomes of a payload at an endpoint. -/
inductive Verdict where
  /-- the endpoint does not take the payload -/
  | refused (reports : List Report)
  /-- the handler failed -/
  | failed (e : Failure)
  /-- the endpoint may not give what the handler answered -/
  | unfit (reports : List Report)
  /-- the payload or the answer could not be checked -/
  | unchecked (why : Schema.Interruption)
  /-- the endpoint gives what the handler answered -/
  | given (data : Value)

/-- What becomes of the answer of a handler. -/
def Verdict.ofAnswer (schema : Option Schema) : Except Failure Value → Verdict
  | .error e => .failed e
  | .ok data =>
    match reportsOn schema data with
    | .error why => .unchecked why
    | .ok [] => .given data
    | .ok reports => .unfit reports

/-- What becomes of a payload at an endpoint whose handler has an answer to it. -/
def verdict (entry : Entry (Handler L)) (payload : Value) (answer : Except Failure Value) : Verdict :=
  match reportsOn entry.input payload with
  | .error why => .unchecked why
  | .ok [] => .ofAnswer entry.output answer
  | .ok reports => .refused reports

/-- What a step at a place makes of the verdict of its endpoint. -/
def Verdict.told (place : Place) : Verdict → Except Failure Value
  | .refused reports => .error (.inputRejected place reports)
  | .failed e => .error (.handler place e)
  | .unfit reports => .error (.outputRejected place reports)
  | .unchecked why => .error (.checking why)
  | .given data => .ok data

/-- What a verdict says of a payload at an endpoint and of the answer to it. -/
def Verdict.Says (entry : Entry (Handler L)) (payload : Value) (answer : Except Failure Value) :
    Verdict → Prop
  | .refused reports => reportsOn entry.input payload = .ok reports ∧ reports ≠ []
  | .failed e => Admits entry.input payload ∧ answer = .error e
  | .unfit reports => Admits entry.input payload ∧
      ∃ data, answer = .ok data ∧ reportsOn entry.output data = .ok reports ∧ reports ≠ []
  | .unchecked why => reportsOn entry.input payload = .error why ∨
      Admits entry.input payload ∧ ∃ data, answer = .ok data ∧ reportsOn entry.output data = .error why
  | .given data => Admits entry.input payload ∧ answer = .ok data ∧ Admits entry.output data

section Says

variable {entry : Entry (Handler L)} {payload : Value} {answer : Except Failure Value} {v : Verdict}

theorem Verdict.Says.eq (h : v.Says entry payload answer) : verdict entry payload answer = v := by
  rw [verdict]
  cases v with
  | refused reports =>
    obtain ⟨hreports, hne⟩ := h
    obtain ⟨report, rest, rfl⟩ := List.exists_cons_of_ne_nil hne
    rw [hreports]
  | failed e =>
    obtain ⟨hadmits, rfl⟩ := h
    rw [reportsOn_eq_nil.mpr hadmits]
    rfl
  | unfit reports =>
    obtain ⟨hadmits, data, rfl, hreports, hne⟩ := h
    obtain ⟨report, rest, rfl⟩ := List.exists_cons_of_ne_nil hne
    rw [reportsOn_eq_nil.mpr hadmits]
    dsimp only [ofAnswer]
    rw [hreports]
  | unchecked why =>
    rcases h with hinput | ⟨hadmits, data, rfl, houtput⟩
    · rw [hinput]
    · rw [reportsOn_eq_nil.mpr hadmits]
      dsimp only [ofAnswer]
      rw [houtput]
  | given data =>
    obtain ⟨hadmits, rfl, hgives⟩ := h
    rw [reportsOn_eq_nil.mpr hadmits]
    dsimp only [ofAnswer]
    rw [reportsOn_eq_nil.mpr hgives]

end Says

/-! ### Chains of one step -/

section Single

variable {call : Caller L σ} {registry : Registry (Handler L)} {payload request : Value}
  {s t : Session σ} {step : Config.Step}

theorem execute_single_fails {fault : Fault}
    (h : StepFails call registry s.history.length request step (s.openRun payload) fault t) :
    ∃ final, execute call registry ⟨[step], .null⟩ payload request .fresh s
      = ((.error (fault.failure (placeOf 0 step)), final), t) :=
  ⟨_, (execute_eq_error rfl).mpr
    (.inl ⟨[], step, s.openRun payload, fault, ⟨⟨[], rfl⟩, .done _, h⟩, rfl, rfl⟩)⟩

/-- When the one step passes, its output is the result. -/
theorem execute_single_passes {input output : Value}
    (h : StepPasses call registry s.history.length request step (s.openRun payload) input output t)
    (hrun : s.history.length < t.history.length) :
    ∃ final, execute call registry ⟨[step], .null⟩ payload request .fresh s
      = ((.ok output, final), t.record s.history.length step output) := by
  have hresult : result (t.record s.history.length step output).history s.history.length .null
      = .ok output := by
    rw [result, Session.record, History.context_record hrun]
    simp [Context.previous?, Context.record]
  let m : Moment σ := ⟨step, s.openRun payload, input, output, t⟩
  have htrace : Trace call registry s.history.length request m.before [m] (m.next s.history.length) :=
    .step h (.done _)
  exact ⟨_, (execute_eq_ok rfl).mpr ⟨rfl, hresult, [m], rfl, htrace⟩⟩

end Single

/-! ### Passing through -/

/-- The chain whose one step, which has no name, calls an endpoint with the payload of the chain. -/
def passThrough (endpoint : String) : Config.Chain :=
  ⟨[⟨none, endpoint, .str "\x7b\x7binput\x7d\x7d"⟩], .null⟩

/-- The template of the payload. -/
theorem compile_input (s : Session σ) (payload : Value) :
    Template.compile (s.openRun payload).history s.history.length (.str "\x7b\x7binput\x7d\x7d")
      = .ok payload := by
  have hcontext : (s.openRun payload).history.context s.history.length = .start payload := by
    simp [Session.openRun, History.context]
  have hinput (h : History) (run : Nat) :
      Template.compile h run (.str "\x7b\x7binput\x7d\x7d") = .ok (h.context run).input := rfl
  rw [hinput, hcontext]
  rfl

/-- A step that calls an endpoint with a plain input comes to the verdict of the endpoint: it fails as
the verdict is told, or it passes with an output that shows what is given. -/
theorem step_verdict {call : Caller L σ} {registry : Registry (Handler L)} {run : Nat} (index : Nat)
    (step : Config.Step) {entry : Entry (Handler L)} {payload request : Value} {s : Session σ}
    {answer : Except Failure Value} (hentry : registry.lookup step.endpoint = some entry)
    (hcompile : Template.compile s.history run step.input = .ok payload)
    (hplain : s.history.reveal payload = payload)
    (hanswer : Answers call entry.handler payload request (s.noted entry.name payload request) answer) :
    (∃ fault t, StepFails call registry run request step s fault t ∧
      (verdict entry payload answer).told (placeOf index step)
        = .error (fault.failure (placeOf index step))) ∨
    ∃ output data t, StepPasses call registry run request step s payload output t ∧
      Shows (s.noted entry.name payload request) t output data ∧
        verdict entry payload answer = .given data := by
  have hrejections : rejections entry.input s.history payload = reportsOn entry.input payload := by
    rw [rejections_eq, hplain]
  rw [verdict]
  cases hinput : reportsOn entry.input payload with
  | error why =>
    exact .inl ⟨_, _, .inputUnchecked hentry hcompile (hrejections.trans hinput), rfl⟩
  | ok reports =>
    cases reports with
    | cons report rest =>
      exact .inl ⟨_, _, .inputRejected hentry hcompile (hrejections.trans hinput) (by simp), rfl⟩
    | nil =>
      have hadmits : Admits entry.input (s.history.reveal payload) := by
        rw [hplain]
        exact reportsOn_eq_nil.mp hinput
      cases hanswer with
      | fails hcall => exact .inl ⟨_, _, .handler hentry hcompile hadmits hcall, rfl⟩
      | @gives output data t hcall hshows =>
        -- right after the answer its runs are as the handler has left them
        have hdata : t.history.reveal output = data := hshows t.history rfl fun _ _ => rfl
        have hrejections : rejections entry.output t.history output = reportsOn entry.output data := by
          rw [rejections_eq, hdata]
        dsimp only [Verdict.ofAnswer]
        cases houtput : reportsOn entry.output data with
        | error why =>
          exact .inl
            ⟨_, _, .outputUnchecked hentry hcompile hadmits hcall (hrejections.trans houtput), rfl⟩
        | ok reports =>
          cases reports with
          | cons report rest =>
            exact .inl ⟨_, _, .outputRejected hentry hcompile hadmits hcall
              (hrejections.trans houtput) (by simp), rfl⟩
          | nil =>
            have hgives : Admits entry.output (t.history.reveal output) := by
              rw [hdata]
              exact reportsOn_eq_nil.mp houtput
            exact .inr ⟨output, data, t, ⟨entry, hentry, hcompile, hadmits, hcall, hgives⟩, hshows, rfl⟩

/-- What an output shows it still shows when it was recorded in a run that was opened before. -/
theorem Shows.record {s u t : Session σ} {output data : Value} (h : Shows u t output data)
    (hrun : s.history.length < u.history.length) (step : Config.Step) (recorded : Value) :
    Shows s (t.record s.history.length step recorded) output data := by
  intro history hlength hcontext
  refine h history (by simpa [Session.record] using hlength) fun run hle => ?_
  rw [hcontext run (by omega), Session.record, History.context_record_of_ne (by omega)]

/-- A chain that passes its payload through answers with the verdict of its endpoint. -/
theorem passThrough_answers {leaves : Leaves L σ} {registry : Registry (Handler L)} {fuel : Nat}
    {entry : Entry (Handler L)} {payload request : Value} {answer : Except Failure Value}
    (hentry : registry.lookup entry.name = some entry)
    (hplain : ∀ h : History, h.reveal payload = payload)
    (hanswers : ∀ s, Answers (callHandler leaves registry fuel) entry.handler payload request s answer)
    (s : Session σ) :
    Answers (callHandler leaves registry (fuel + 1)) (.chain (passThrough entry.name)) payload request s
      ((verdict entry payload answer).told ⟨0, none, entry.name⟩) := by
  rcases step_verdict 0 ⟨none, entry.name, .str "\x7b\x7binput\x7d\x7d"⟩ hentry (compile_input s payload)
    (hplain _) (hanswers _) with ⟨fault, t, hfails, htold⟩ | ⟨output, data, t, hpasses, hshows, hverdict⟩
  · obtain ⟨final, hrun⟩ := execute_single_fails hfails
    have hplace : placeOf 0 ⟨none, entry.name, .str "\x7b\x7binput\x7d\x7d"⟩ = ⟨0, none, entry.name⟩ := rfl
    rw [← hplace, htold]
    exact .fails (t := t) (by rw [callHandler, passThrough, hrun])
  · -- the run of the chain was opened before the call, and the handler opened its own runs behind it
    have hopened : s.history.length < (s.openRun payload).history.length := by simp [Session.openRun]
    have hgrows : s.history.length < t.history.length := by
      obtain ⟨called, -, -, -, hinvoke, -⟩ := hpasses
      have hextends := (callHandler_onlyAdds leaves registry fuel).invoke called payload request
        (s.openRun payload)
      rw [hinvoke] at hextends
      exact Nat.lt_of_lt_of_le hopened hextends.history.length_le
    obtain ⟨final, hrun⟩ := execute_single_passes hpasses hgrows
    rw [hverdict]
    exact .gives (by rw [callHandler, passThrough, hrun]) (hshows.record hopened _ _)

end Switchboard.Chain
