import Switchboard.Proofs.Chain.Success

/-!
A run goes one way: it starts steps, then it succeeds or fails, and after that it takes nothing more.

* `Change` — what a run can be told; `Run.after` and `Run.taken` — the run when it was told some
  changes, and those of them that it took;
* `Told` — what the record of a run says about the changes that it took;
* `Told.apply`, `Told.after` — one change keeps to it, and so do any number of changes;
* `execute_over` — a chain cannot be executed in a run that is over;
* `fresh_goes_one_way` — all of this for every run that can come about.
-/
namespace Switchboard.Chain

/-- What a run can be told. -/
inductive Change where
  | startStep (step : Int)
  | succeed (output : Value)
  | fail (error : Failure)

namespace Change

/-- Tells a run a change. -/
def apply : Change → Run → Except Failure Run
  | .startStep step, r => r.startStep step
  | .succeed output, r => r.succeed output
  | .fail error, r => r.fail error

/-- The step that a change starts. -/
def step? : Change → Option Int
  | .startStep step => some step
  | .succeed _ | .fail _ => none

/-- Whether a change ends a run. -/
def isEnd : Change → Bool
  | .startStep _ => false
  | .succeed _ | .fail _ => true

/-- A run that is over refuses every change. -/
theorem apply_of_over {r : Run} (h : r.isOver = true) (c : Change) :
    c.apply r = .error (.over r.status) := by
  cases c <;> simp [apply, Run.startStep, Run.succeed, Run.fail, Run.change, h]

/-- A run that is not over takes every change. -/
theorem exists_apply {r : Run} (h : r.isOver = false) (c : Change) :
    ∃ next, c.apply r = .ok next := by
  cases c <;> simp [apply, Run.startStep, Run.succeed, Run.fail, Run.change, h]

end Change

namespace Run

/-- The run when it was told some changes, one after the other; one that is refused leaves it as it
was. -/
def after (r : Run) : List Change → Run
  | [] => r
  | c :: rest =>
    match c.apply r with
    | .ok next => next.after rest
    | .error _ => r.after rest

/-- Those of the changes that the run took. -/
def taken (r : Run) : List Change → List Change
  | [] => []
  | c :: rest =>
    match c.apply r with
    | .ok next => c :: next.taken rest
    | .error _ => r.taken rest

/-- What the record of a run says about the changes `done` that it took: nothing was taken before it is
pending no more; its step is the one started last; an end is the last change taken, and the record holds
what was given with it and nothing before. -/
structure Told (r : Run) (done : List Change) : Prop where
  pending : r.status = .pending ↔ done = []
  currentStep : r.currentStep = (done.filterMap Change.step?).getLast?
  ends : (done.filter Change.isEnd).length = if r.isOver then 1 else 0
  succeeded : r.status = .succeeded → done.getLast? = some (.succeed r.output)
  output : r.status ≠ .succeeded → r.output = .null
  failed : r.status = .failed → ∃ e, r.error = some e ∧ done.getLast? = some (.fail e)
  error : r.status ≠ .failed → r.error = none

theorem fresh_told : fresh.Told [] := by
  constructor <;> simp [fresh, isOver]

/-- A change that is taken is told of. -/
theorem Told.apply {r next : Run} {done : List Change} {c : Change} (h : r.Told done)
    (hc : c.apply r = .ok next) : next.Told (done ++ [c]) := by
  -- only a run that is not over takes a change, and such a run holds no result and no failure
  have hopen : r.isOver = false := by
    by_contra hover
    simp [Change.apply_of_over (r := r) (by simpa using hover)] at hc
  have hstatus : r.status ≠ .succeeded ∧ r.status ≠ .failed := by simpa [isOver] using hopen
  have houtput := h.output hstatus.1
  have herror := h.error hstatus.2
  have hends : (done.filter Change.isEnd).length = 0 := by simpa [hopen] using h.ends
  cases c with
  | startStep step =>
    obtain rfl := (eq_of_change hc).2
    refine ⟨by simp, ?_, ?_, by simp, fun _ => houtput, by simp, fun _ => herror⟩
    · simp [Change.step?]
    · simpa [isOver, Change.isEnd] using hends
  | succeed output =>
    obtain rfl := (eq_of_change hc).2
    refine ⟨by simp, ?_, ?_, by simp, by simp, by simp, fun _ => herror⟩
    · simpa [Change.step?] using h.currentStep
    · rw [List.filter_append, List.length_append, hends]
      rfl
  | fail e =>
    obtain rfl := (eq_of_change hc).2
    refine ⟨by simp, ?_, ?_, by simp, fun _ => houtput, fun _ => ⟨e, rfl, by simp⟩, by simp⟩
    · simpa [Change.step?] using h.currentStep
    · rw [List.filter_append, List.length_append, hends]
      rfl

/-- All changes that are taken are told of. -/
theorem Told.after {r : Run} {done : List Change} (h : r.Told done) (changes : List Change) :
    (r.after changes).Told (done ++ r.taken changes) := by
  induction changes generalizing r done with
  | nil => simpa [Run.after, taken] using h
  | cons c rest ih =>
    rw [Run.after, taken]
    cases hc : c.apply r with
    | error e => exact ih h
    | ok next =>
      have hrest := ih (h.apply hc)
      rwa [List.append_assoc, List.singleton_append] at hrest

/-- A run that is over stays as it is. -/
theorem after_of_over {r : Run} (h : r.isOver = true) (changes : List Change) :
    r.after changes = r ∧ r.taken changes = [] := by
  induction changes with
  | nil => exact ⟨rfl, rfl⟩
  | cons c rest ih => simpa [after, taken, Change.apply_of_over h c] using ih

theorem after_append (r : Run) (changes more : List Change) :
    r.after (changes ++ more) = (r.after changes).after more ∧
      r.taken (changes ++ more) = r.taken changes ++ (r.after changes).taken more := by
  induction changes generalizing r with
  | nil => exact ⟨rfl, rfl⟩
  | cons c rest ih =>
    rw [List.cons_append, after, taken, after, taken]
    cases c.apply r with
    | error e => exact ih r
    | ok next =>
      obtain ⟨hafter, htaken⟩ := ih next
      exact ⟨hafter, by simp only [htaken, List.cons_append]⟩

end Run

/-! ### Executions -/

variable {L σ : Type}

/-- The end of an execution changes nothing of a run that is over, and there is no result. -/
theorem close_of_over {record : Run} (h : record.isOver = true) (outcome : Except Failure Value) :
    ∃ e, close outcome record = (.error e, record) := by
  have hsucceed := Change.apply_of_over h
  cases outcome with
  | ok v =>
    have hrefused : record.succeed v = .error (.over record.status) := hsucceed (.succeed v)
    exact ⟨_, by rw [close, hrefused]⟩
  | error e =>
    have hrefused : record.fail e = .error (.over record.status) := hsucceed (.fail e)
    by_cases hchain : e.isOfChain
    · exact ⟨_, by rw [close, if_pos hchain, hrefused]⟩
    · exact ⟨_, by rw [close, if_neg hchain]⟩

/-- A chain cannot be executed in a run that is over: no endpoint is called, and the run stays as it
is. A chain with steps is refused at the first of them; one without has no step to be refused at. -/
theorem execute_over {record : Run} (h : record.isOver = true) (call : Caller L σ)
    (registry : Registry (Handler L)) (chain : Config.Chain) (payload request : Value)
    (s : Session σ) :
    ∃ e, execute call registry chain payload request record s
        = ((.error e, record), s.openRun payload) ∧
      (chain.steps ≠ [] → e = .over record.status) := by
  rw [execute]
  cases hsteps : chain.steps with
  | nil =>
    obtain ⟨e, hclose⟩ := close_of_over h
      (result (s.openRun payload).history s.history.length chain.output)
    exact ⟨e, by simp only [runSteps, hclose], by simp⟩
  | cons step rest =>
    have hrefused : record.startStep (0 : Nat) = .error (.over record.status) :=
      Change.apply_of_over h (.startStep _)
    refine ⟨.over record.status, ?_, fun _ => rfl⟩
    simp only [runSteps, hrefused, close, Failure.isOfChain, Bool.false_eq_true, if_false]

/-- **A run goes one way.** Whatever a fresh run is told, its record says which changes it took: it is
pending exactly when it took none, its step is the one started last, it took at most one end, and it
holds a result or a failure exactly when that was its end. A run that is not over takes every change.
Once it is over it refuses all that it is told, and all of it stays as it was. So it does when a chain is
executed in it: that fails without a call, and for a chain with steps, as those of settings are
(`Config.Chain.steps_ne_nil_of_read`), it fails because the run is over. -/
theorem fresh_goes_one_way (changes : List Change) :
    (Run.fresh.after changes).Told (Run.fresh.taken changes) ∧
    ((Run.fresh.after changes).isOver = false →
      ∀ c : Change, ∃ next, c.apply (Run.fresh.after changes) = .ok next) ∧
    ((Run.fresh.after changes).isOver = true →
      (∀ c : Change, c.apply (Run.fresh.after changes)
        = .error (.over (Run.fresh.after changes).status)) ∧
      ∀ more, Run.fresh.after (changes ++ more) = Run.fresh.after changes ∧
        Run.fresh.taken (changes ++ more) = Run.fresh.taken changes) ∧
    ∀ record : Run, record.isOver = true →
      ∀ (L σ : Type) (call : Caller L σ) (registry : Registry (Handler L)) (chain : Config.Chain)
        (payload request : Value) (s : Session σ),
        ∃ e t, execute call registry chain payload request record s = ((.error e, record), t) ∧
          t.calls = s.calls ∧ t.kept = s.kept ∧ t.state = s.state ∧
          (chain.steps ≠ [] → e = .over record.status) := by
  refine ⟨Run.fresh_told.after changes, fun hopen c => c.exists_apply hopen, fun hover => ⟨?_, ?_⟩, ?_⟩
  · exact Change.apply_of_over hover
  · intro more
    obtain ⟨hafter, htaken⟩ := Run.fresh.after_append changes more
    obtain ⟨hstays, hnone⟩ := Run.after_of_over hover more
    exact ⟨hafter.trans hstays, by rw [htaken, hnone, List.append_nil]⟩
  · intro record hover L σ call registry chain payload request s
    obtain ⟨e, hrun, hsteps⟩ := execute_over hover call registry chain payload request s
    exact ⟨e, _, hrun, rfl, rfl, rfl, hsteps⟩

/-- A run that has succeeded neither starts again nor fails, and the echo is not asked in it. -/
theorem succeeded_goes_one_way :
    (Run.fresh.after [.startStep 0, .succeed (.int 5)]).isOver = true ∧ echoTwice.steps ≠ [] ∧
    (Run.fresh.after [.startStep 0, .succeed (.int 5)]).Told [.startStep 0, .succeed (.int 5)] ∧
    Run.fresh.after [.startStep 0, .succeed (.int 5), .startStep 1, .fail .timeout]
      = ⟨.succeeded, some 0, .int 5, none⟩ ∧
    ∃ t, execute (callHandler echo echoRegistry 0) echoRegistry echoTwice (.int 7) .null
          ⟨.succeeded, some 0, .int 5, none⟩ (.start ())
        = ((.error (.over .succeeded), ⟨.succeeded, some 0, .int 5, none⟩), t) ∧ t.calls = [] := by
  have hover : (Run.fresh.after [.startStep 0, .succeed (.int 5)]).isOver = true := rfl
  have hsteps : echoTwice.steps ≠ [] := by simp [echoTwice]
  obtain ⟨htold, -, hstays, hexecute⟩ := fresh_goes_one_way [.startStep 0, .succeed (.int 5)]
  obtain ⟨e, t, hrun, hcalls, -, -, he⟩ := hexecute _ hover Unit Unit
    (callHandler echo echoRegistry 0) echoRegistry echoTwice (.int 7) .null (.start ())
  obtain rfl := he hsteps
  exact ⟨hover, hsteps, htold, ((hstays hover).2 [.startStep 1, .fail .timeout]).1, t, hrun, hcalls⟩

end Switchboard.Chain
