import Switchboard.Environment
import Switchboard.Tools.Shell.Runner

/-!
The command `sh`: a shell that runs a script of commands, with pipes, lists, loops, choices, functions
and substitutions.

`runCommand` counts down a fuel with each level of nesting, so that every run ends.
-/
namespace Switchboard.Tools.Shell

/-- How deep commands may run each other. -/
def maxDepth : Nat := 3000

/-- Runs the commands of a script, and complains of its structure where that is broken. -/
def runCommands (command : Command → Run Unit) (script : Script) : Run Unit := do
  script.commands.forM command
  match script.fault with
  | none => pure ()
  | some (line, why) =>
    modify fun s => { s with line }
    Run.fault ("Syntax error: ".toList ++ why.toList) 2

/-- What the arguments of a shell ask for: options, and a script with its name and parameters, or a
file; or a complaint. -/
inductive Request where
  | script (options : List Char) (text name : Octets) (parameters : List Octets)
  | file (name : Octets)
  | nothing
  | refuse (why : Octets)

/-- Reads the arguments of a shell. -/
def readArguments (name : Octets) (options : List Char) : List Octets → Request
  | [] => if 'c' ∈ options then .refuse "-c requires an argument".toList else .nothing
  | arg :: rest =>
    match arg with
    | ['-'] | ['-', '-'] => operands rest
    | ['-', 'o'] => readLong rest
    | sign :: c :: more =>
      if sign = '-' || sign = '+' then
        match (c :: more).find? fun c => !(c = 'c' || c ∈ Builtin.optionLetters) with
        | some wrong => .refuse ("Illegal option ".toList ++ [sign, wrong])
        | none =>
          readArguments name (if sign = '-' then options ++ c :: more else options) rest
      else operands (arg :: rest)
    | _ => operands (arg :: rest)
where
  /-- The arguments behind the options. -/
  operands (args : List Octets) : Request :=
    if 'c' ∈ options then
      match args with
      | [] => .refuse "-c requires an argument".toList
      | [text] => .script (options.filter (· != 'c')) text name []
      | text :: name :: parameters => .script (options.filter (· != 'c')) text name parameters
    else if 's' ∈ options then .nothing
    else
      match args with
      | [] => .nothing
      | file :: _ => .file file
  /-- An option by its long name. -/
  readLong : List Octets → Request
    | [] => .nothing
    | long :: rest =>
      match Builtin.longOptions.lookup (String.ofList long) with
      | some letter => readArguments name (options ++ [letter]) rest
      | none => .refuse ("Illegal option -o ".toList ++ long)

/-- Runs a shell with its arguments, given how it runs the text of a script. -/
def runShell (script : Octets → Run Unit) (name : Octets) (args : List Octets) : Run Unit := do
  let refuse (why : Octets) : Run Unit := do
    Run.write 2 (name ++ ": 0: ".toList ++ why ++ ['\n'])
    Run.setStatus 2
  match readArguments name [] args with
  | .refuse why => refuse why
  | .nothing => Run.setStatus 0
  | .file file => refuse ("cannot open ".toList ++ file ++ ": No such file".toList)
  | .script options text name parameters =>
    modify fun s => { s with
      name, parameters, options, status := 0, line := 1, asker := none, functions := [], locals := none, loops := 0
      traps := s.traps.filter (·.2.isEmpty), pending := [], isTested := false
      bindings := s.bindings.filterMap fun (key, v) =>
        if v.isExported then some (key, { v with isFixed := false }) else none }
    if 'n' ∈ options then
      match (Script.read text).fault with
      | none => pure ()
      | some (line, why) =>
        modify fun s => { s with line }
        Run.complain ("Syntax error: ".toList ++ why.toList)
        Run.setStatus 2
    else Run.ending script (script text)

/-- Runs a command, so many levels deep. Only functions that call each other can go deeper. -/
def runCommand : (fuel : Nat) → Command → Run Unit
  | 0, _ => Run.fault tooManyCalls 2
  | fuel + 1, c =>
    let command := runCommand fuel
    let script (text : Octets) : Run Unit := runCommands command (Script.read text)
    let output (body : Script) : Run Octets := Run.captured <| Run.ending script do
      Run.setStatus 0
      runCommands command body
    let shell (name : Octets) (args : List Octets) : Run Unit := do
      match ← Run.caught (Run.apart (runShell script name args)) with
      | .error (.signal n) => Run.setStatus (128 + n)
      | result => Run.resume result
    Runner.step ⟨Expansion.expand output (fuel + 1), command, script, shell⟩ c

/-- The state in which a shell starts. -/
def start (environment : Environment) (name : Octets) : State where
  name := name
  parameters := []
  bindings := environment.reverse.foldl (fun bindings (key, value) =>
    State.put (Octets.ofText key) ⟨some (Octets.ofText value), true, false⟩ bindings) []
  functions := []
  options := []
  status := 0
  line := 1
  asker := none
  locals := none
  loops := 0
  calls := 0
  isTested := false
  numbers := [(0, 0), (1, 1), (2, 2)]
  streams := #[.source [], .sink [], .sink []]
  files := []
  directory := "/".toList
  traps := []
  pending := []
  substituted := none
  seconds := 0.0
  jobs := []

/-- Runs the command. -/
def run (environment : Environment) (name : Octets) (args : List Octets) : Outcome :=
  let script (text : Octets) : Run Unit :=
    runCommands (runCommand maxDepth) (Script.read text)
  let (result, s) := runShell script name args (start environment name)
  let s := s.settled
  let seconds : Float := match result with
    | .error .endless => 1.0 / 0.0
    | _ => s.seconds
  let status : Int := match result with
    | .error (.signal n) => -n
    | _ => s.status % 256
  ⟨status, s.written 1, s.written 2, seconds⟩

end Switchboard.Tools.Shell
