import Switchboard.Decimal.Text
import Switchboard.Tools.Octets
import Switchboard.Tools.Quote

/-!
The command `sleep`: it does nothing for the sum of some times.
-/
namespace Switchboard.Tools.Sleep

/-- The seconds of a unit. -/
def unit? : List Char → Option Float
  | [] => some 1.0
  | ['s'] => some 1.0
  | ['m'] => some 60.0
  | ['h'] => some 3600.0
  | ['d'] => some 86400.0
  | _ => none

/-- The seconds that an argument writes: a number, and perhaps a unit. -/
def seconds? (cs : Octets) : Option Float := do
  let tail := if ['s', 'm', 'h', 'd'].any (cs.getLast? = some ·) then cs.drop (cs.length - 1) else []
  let unit ← unit? tail
  let n ← Decimal.ofText? (cs.take (cs.length - tail.length))
  if n ≥ 0.0 then some (n * unit) else none

/-- Runs the command. -/
def run (name : Octets) (args : List Octets) : Outcome :=
  let hint := "\nTry '".toList ++ name ++ " --help' for more information.".toList
  if args.isEmpty then .failure 1 (name ++ ": missing operand".toList ++ hint)
  else
    match args.filter fun arg => (seconds? arg).isNone with
    | [] => { Outcome.silent 0 with
        seconds := (args.filterMap seconds?).foldl (fun (a b : Float) => a + b) 0.0 }
    | wrong =>
      let lines := wrong.map fun arg =>
        name ++ ": invalid time interval ".toList ++ Quote.inComplaint arg
      .failure 1 (Octets.join ['\n'] lines ++ hint)

end Switchboard.Tools.Sleep
