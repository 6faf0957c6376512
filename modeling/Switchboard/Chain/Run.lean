import Switchboard.Failure

/-!
The record of one run of a chain: how far it has come, and how it ended.

A run starts steps until it succeeds or fails; after that it is over and takes nothing more.
-/
namespace Switchboard.Chain

/-- A run of a chain. -/
structure Run where
  status : Status
  currentStep : Option Int
  output : Value
  error : Option Failure

namespace Run

/-- A run before its first step. -/
def fresh : Run := ⟨.pending, none, .null, none⟩

/-- Whether a run is over. -/
def isOver (r : Run) : Bool := r.status == .succeeded || r.status == .failed

/-- A change of a run that is not over. -/
def change (r : Run) (next : Run) : Except Failure Run :=
  if r.isOver then .error (.over r.status) else .ok next

/-- Starts a step. -/
def startStep (r : Run) (step : Int) : Except Failure Run :=
  r.change { r with status := .running, currentStep := some step }

/-- Ends a run with its result. -/
def succeed (r : Run) (output : Value) : Except Failure Run :=
  r.change { r with status := .succeeded, output := output }

/-- Ends a run with what made it fail. -/
def fail (r : Run) (error : Failure) : Except Failure Run :=
  r.change { r with status := .failed, error := some error }

end Run

end Switchboard.Chain
