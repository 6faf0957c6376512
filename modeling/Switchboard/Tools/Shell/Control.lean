import Switchboard.Tools.Shell.State

/-!
How runs are put together: loops and their rounds, failures that are looked at, and what is run at the
end of a script or when a signal comes.

Loops count their rounds, so that they end; one that would go on is endless.
-/
namespace Switchboard.Tools.Shell

/-- How often a loop may go round. -/
def maxRounds : Nat := 100000

/-- How deep functions may call each other. -/
def maxCalls : Nat := 1000

/-- The complaint about functions that call each other too deep. -/
def tooManyCalls : Octets := "Maximum function recursion depth (1000) reached".toList

namespace Run

/-- Repeats a step as long as it says so. -/
def rounds (step : Run Bool) : (fuel : Nat) → Run Unit
  | 0 => throw .endless
  | fuel + 1 => do if ← step then rounds step fuel

/-- Stops as a run did that was caught. -/
def resume : Except Stop Unit → Run Unit
  | .ok () => pure ()
  | .error stop => throw stop

/-- Runs something whose failure is looked at. -/
def tested (run : Run Unit) : Run Unit := do
  let before := (← get).isTested
  modify fun s => { s with isTested := true }
  let result ← caught run
  modify fun s => { s with isTested := before }
  resume result

/-- Runs something, and puts back what numbers are open for. -/
def withNumbers (run : Run Unit) : Run Unit := do
  let numbers := (← get).numbers
  let result ← caught run
  modify fun s => { s with numbers }
  resume result

/-- Ends the script if the status is a failure that nothing looks at. -/
def check : Run Unit := do
  let s ← get
  if s.status != 0 && s.has 'e' && !s.isTested then throw .exit

/-- The body of a loop: whether the loop goes on. -/
def round (body : Run Unit) : Run Bool := do
  match ← caught body with
  | .ok () => return true
  | .error (.leaveLoops (n + 1)) => if n = 0 then return false else throw (.leaveLoops n)
  | .error (.nextRound (n + 1)) => if n = 0 then return true else throw (.nextRound n)
  | .error stop => throw stop

/-- Runs something inside of one more loop. -/
def inLoop (run : Run Unit) : Run Unit := do
  modify fun s => { s with loops := s.loops + 1 }
  let result ← caught run
  modify fun s => { s with loops := s.loops - 1 }
  resume result

/-- Runs something and then what is to be run at the end of a script. The status stays unless that
ends the shell. -/
def ending (script : Octets → Run Unit) (run : Run Unit) : Run Unit := do
  match ← caught run with
  | .error (.signal n) => throw (.signal n)
  | .error .endless => throw .endless
  | _ =>
    let s ← get
    match s.traps.lookup 0 with
    | none => pure ()
    | some action =>
      set { s with traps := s.traps.filter (·.1 != 0) }
      match ← caught (script action) with
      | .ok () => setStatus s.status
      | .error .exit => pure ()
      | .error stop => throw stop

/-- Runs what is to be run for the signals that have come. -/
def answer (script : Octets → Run Unit) : Run Unit := do
  let s ← get
  set { s with pending := [] }
  s.pending.forM fun n => do
    match (← get).traps.lookup n with
    | some action => script action
    | none => pure ()
  modify fun t => { t with status := s.status }

end Run

end Switchboard.Tools.Shell
