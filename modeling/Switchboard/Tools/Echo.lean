import Switchboard.Tools.Escape
import Switchboard.Tools.Octets

/-!
The command `echo`, on its own and as part of a shell: its arguments with spaces between them and a
line feed behind them.
-/
namespace Switchboard.Tools.Echo

/-- What the options ask for. -/
structure Options where
  newline : Bool
  escapes : Bool

/-- The options that one argument sets, if it is made of option letters only. -/
def optionsOf? (o : Options) : Octets → Option Options
  | '-' :: cs =>
    if cs.isEmpty || !cs.all (· ∈ ['n', 'e', 'E']) then none
    else
      some (cs.foldl (fun o c =>
        if c = 'n' then { o with newline := false }
        else { o with escapes := c = 'e' }) o)
  | _ => none

/-- The options in front, and the other arguments. -/
def takeOptions (o : Options) : List Octets → Options × List Octets
  | [] => (o, [])
  | arg :: rest =>
    match optionsOf? o arg with
    | some o => takeOptions o rest
    | none => (o, arg :: rest)

/-- What is written for texts. -/
def written (e : Escapes) (o : Options) (args : List Octets) : Octets :=
  let line := Octets.join [' '] args
  let (data, ending) := if o.escapes then collect (pieces e 0 line) else (line, .whole)
  if ending = .whole && o.newline then data ++ ['\n'] else data

/-- The escapes that are replaced on demand. -/
def replaced : Escapes := ⟨true, true, true, false, false⟩

/-- The command: escapes are replaced on demand. -/
def run (args : List Octets) : Outcome :=
  let (o, rest) := takeOptions ⟨true, false⟩ args
  .success (written replaced o rest)

/-- What the command inside a shell writes: escapes are always replaced, and there is one option, in
front. -/
def inShell (args : List Octets) : Octets :=
  let (newline, rest) := match args with
    | ['-', 'n'] :: rest => (false, rest)
    | args => (true, args)
  written ⟨true, true, false, false, false⟩ ⟨newline, true⟩ rest

end Switchboard.Tools.Echo
