import Switchboard.Tools.Shell.Builtin
import Switchboard.Tools.Shell.Control
import Switchboard.Tools.Sleep

/-!
Running commands: redirections, commands by name, pipes, lists, loops, choices and functions.

A command is run one level at a time. What runs the commands inside of it is a part of the `Runner`.
-/
namespace Switchboard.Tools.Shell

/-- What running commands needs: how a word is expanded, and how a command, the text of a script, and
a command of the machine are run. -/
structure Runner where
  expand : Bool → Word → Run (List Atom)
  command : Command → Run Unit
  script : Octets → Run Unit
  shell : (name : Octets) → List Octets → Run Unit

namespace Runner

/-- Runs something in a copy of the shell, to its own end. -/
def apart (r : Runner) (run : Run Unit) : Run Unit := Run.apart (Run.ending r.script run)

/-! ### Redirections -/

/-- The number that a name such as `/dev/stderr` stands for. -/
def numberOf? (name : Octets) : Option Nat :=
  match String.ofList name with
  | "/dev/stdin" => some 0
  | "/dev/stdout" => some 1
  | "/dev/stderr" => some 2
  | _ =>
    ["/dev/fd/", "/proc/self/fd/"].findSome? fun directory =>
      (Text.dropPrefix? directory.toList name).bind Filter.number?

/-- Lets a number lead where another one leads. -/
def copyNumber (number source : Nat) : Run Unit := do
  match (← get).numbers.lookup source with
  | some place => modify fun s =>
    { s with numbers := (number, place) :: s.numbers.filter (·.1 != number) }
  | none => Run.fault (Octets.ofInt source ++ ": Bad file descriptor".toList) 2

/-- Opens a file for a number. -/
def openFile (number : Nat) (opening : Opening) (name : Octets) : Run Unit := do
  let s ← get
  let full := s.absolute name
  match numberOf? name with
  | some source => copyNumber number source
  | none =>
    let create : Run Unit := do
      if !s.mayHold name then
        Run.fault ("cannot create ".toList ++ name ++ ": Directory nonexistent".toList) 2
      let kept := match opening with
        | .write => []
        | _ => (s.files.lookup full).getD []
      modify fun s => { s with files := State.put full kept s.files }
      modify (State.connect number (.file full))
    match opening, s.fileAt? name with
    | .read, some (.plain data) => modify (State.connect number (.source data))
    | .read, some _ => modify (State.connect number (.source []))
    | .read, none => Run.fault ("cannot open ".toList ++ name ++ ": No such file".toList) 2
    | _, some .directory => Run.fault ("cannot create ".toList ++ name ++ ": Is a directory".toList) 2
    | _, some .device => modify (State.connect number .nothing)
    | _, _ => create

/-- Carries out a redirection. -/
def redirect (r : Runner) : Redirection → Run Unit
  | .file number opening name => do openFile number opening (← Expansion.text r.expand name)
  | .here number text => do
    let data ← Expansion.text r.expand text
    modify (State.connect number (.source data))
  | .copy number source => do
    match ← Expansion.text r.expand source with
    | ['-'] => modify fun s => { s with numbers := s.numbers.filter (·.1 != number) }
    | [d] =>
      if Text.isDigit d then copyNumber number (Text.digitValue d)
      else Run.fault "Syntax error: Bad fd number".toList 2
    | _ => Run.fault "Syntax error: Bad fd number".toList 2

/-- Carries out redirections: whether they all went well. -/
def redirectAll (r : Runner) (rs : List Redirection) : Run Bool := do
  match ← Run.caught (rs.forM r.redirect) with
  | .ok () => return true
  | .error .fault =>
    Run.setStatus 2
    return false
  | .error stop => throw stop

/-! ### Commands by name -/

/-- Sets variables one after another, and gives their values. -/
def assignAll (r : Runner) (assignments : List (Octets × Word)) : Run (List (Octets × Octets)) :=
  assignments.mapM fun (name, word) => do
    let value ← Expansion.text r.expand word
    Run.assign name value
    return (name, value)

/-- Runs something with variables that are set for it alone. -/
def withVariables (values : List (Octets × Octets)) (run : Run Unit) : Run Unit := do
  let before := (← get).bindings
  values.forM fun (name, value) => do
    Run.assign name value
    modify fun s => { s with bindings := State.put name ⟨some value, true, false⟩ s.bindings }
  let result ← Run.caught run
  modify fun s =>
    let others := s.bindings.filter fun (name, _) => !values.any (·.1 = name)
    { s with bindings := before.filter (fun (name, _) => values.any (·.1 = name)) ++ others }
  Run.resume result

/-- Calls a function. -/
def call (r : Runner) (body : Command) (args : List Octets) : Run Unit := do
  let before ← get
  if before.calls ≥ maxCalls then
    Run.fault tooManyCalls 2
  set { before with
    parameters := args, locals := some [], loops := 0, calls := before.calls + 1 }
  let result ← Run.caught (r.command body)
  modify fun s =>
    let restored := (s.locals.getD []).foldl (fun bindings (name, old) =>
      match old with
      | some v => State.put name v bindings
      | none => bindings.filter (·.1 != name)) s.bindings
    { s with
      parameters := before.parameters, locals := before.locals, loops := before.loops
      calls := before.calls, bindings := restored }
  match result with
  | .error .leaveFunction => pure ()
  | result => Run.resume result

/-- Runs a command that lies at a path; it is called by a name. -/
def program (r : Runner) (name path : Octets) (args : List Octets) : Run Unit := do
  let s ← get
  let last := String.ofList (State.splitLast path).2
  let finish (o : Outcome) : Run Unit := do Run.setStatus (← Builtin.finish o)
  match last with
  | "sh" | "dash" => r.shell name args
  | "echo" => finish (Echo.run args)
  | "printf" => finish (Printf.run name args)
  | "sleep" => finish (Sleep.run name args)
  | "true" => Run.setStatus 0
  | "false" => Run.setStatus 1
  | "test" | "[" =>
    let (status, why) := Condition.run s last.toList args
    why.forM fun why => Run.write 2 (name ++ ": ".toList ++ why ++ ['\n'])
    Run.setStatus status
  | last =>
    match Filter.commands.lookup last with
    | none => Run.setStatus 127
    | some run =>
      let read (file : Octets) : Except String Octets :=
        match s.fileAt? file with
        | some (.plain data) => .ok data
        | some .directory => .error "Is a directory"
        | some _ => .ok []
        | none => .error "No such file or directory"
      let input ← Run.input 0
      Run.setInput 0 []
      finish (run ⟨name, read, input⟩ args)

/-- Finds a command of the machine and runs it. -/
def external (r : Runner) (name : Octets) (args : List Octets) : Run Unit := do
  let s ← get
  let refuse (why : String) (status : Int) : Run Unit := do
    Run.complain (name ++ ": ".toList ++ why.toList)
    Run.setStatus status
  if name.isEmpty then refuse "Permission denied" 127
  else if '/' ∈ name then
    match s.fileAt? name with
    | some (.command _) => r.program name name args
    | some _ => refuse "Permission denied" 126
    | none => refuse "not found" 127
  else
    match s.find? name with
    | some path => r.program name path args
    | none => refuse "not found" 127

/-- The number of loops that an argument names. -/
def loopCount (args : List Octets) : Run Nat := do
  match args with
  | [] => return 1
  | arg :: _ =>
    let n ← Builtin.number arg
    if n = 0 then Run.fault ("Illegal number: ".toList ++ arg) 2
    return n

/-- Runs a special command of the shell. -/
def special (r : Runner) (name : Octets) (args : List Octets) : Run Unit := Run.onBehalf name do
  let withStatus (stop : Stop) : Run Unit := do
    match args with
    | arg :: _ => Run.setStatus (← Builtin.number arg)
    | [] => pure ()
    throw stop
  match String.ofList name with
  | "exit" => withStatus .exit
  | "return" => withStatus .leaveFunction
  | "break" =>
    let n ← loopCount args
    let loops := (← get).loops
    Run.setStatus 0
    if loops != 0 then throw (.leaveLoops (min n loops))
  | "continue" =>
    let n ← loopCount args
    let loops := (← get).loops
    Run.setStatus 0
    if loops != 0 then throw (.nextRound (min n loops))
  | "eval" =>
    Run.setStatus 0
    r.script (Octets.join [' '] args)
  | "." =>
    match args with
    | [] => Run.fault "filename argument required".toList 2
    | file :: _ =>
      match (← get).fileAt? file with
      | some (.plain data) => r.script data
      | _ =>
        if '/' ∈ file then
          Run.fault ("cannot open ".toList ++ file ++ ": No such file".toList) 2
        else Run.fault (file ++ ": not found".toList) 2
  | "exec" =>
    match args with
    | [] => Run.setStatus 0
    | name :: args =>
      r.external name args
      throw .exit
  | _ => Run.setStatus (← Builtin.run name args)

/-- Runs a regular command of the shell; its faults do not end the script. -/
def regular (name : Octets) (args : List Octets) : Run Unit := do
  match ← Run.caught (Run.onBehalf name (Builtin.run name args)) with
  | .ok status => Run.setStatus status
  | .error .fault => pure ()
  | .error stop => throw stop

/-- Runs a command by its name, functions aside. -/
def plainCommand (r : Runner) (values : List (Octets × Octets)) (name : Octets) (args : List Octets) :
    Run Unit := do
  let text := String.ofList name
  if text ∈ Builtin.special then
    match ← Run.caught (withVariables values (r.special name args)) with
    | .error .fault => pure ()
    | result => Run.resume result
  else if text ∈ Builtin.regular then withVariables values (regular name args)
  else withVariables values (r.external name args)

/-- Runs a command by its name. The variables of a special command stay. -/
def named (r : Runner) (values : List (Octets × Octets)) (name : Octets) (args : List Octets) :
    Run Unit := do
  let text := String.ofList name
  if text ∈ Builtin.special then
    values.forM fun (name, value) => Run.assign name value
    r.special name args
  else
    match (← get).functions.lookup name with
    | some body => withVariables values (r.call body args)
    | none =>
      if text = "command" then
        match args with
        | [] => Run.setStatus 0
        | ['-', 'v'] :: names => Run.setStatus (← Builtin.explain true (names.take 1))
        | ['-', 'V'] :: names => Run.setStatus (← Builtin.explain false (names.take 1))
        | ['-', 'p'] :: name :: args => r.plainCommand values name args
        | name :: args => r.plainCommand values name args
      else r.plainCommand values name args

/-- Shows a command before it runs, if that is asked for. It is shown where complaints went before the
command redirected them. -/
def trace (numbers : List (Nat × Nat)) (values : List (Octets × Octets)) (fields : List Octets) :
    Run Unit := do
  let s ← get
  if s.has 'x' && !(values.isEmpty && fields.isEmpty) then
    let lead := (s.valueOf? "PS4".toList).getD ['+', ' ']
    let words := values.map (fun (name, value) => name ++ '=' :: value) ++ fields
    set { s with numbers }
    Run.write 2 (lead ++ Octets.join [' '] words ++ ['\n'])
    modify fun t => { t with numbers := s.numbers }

/-- Runs a simple command: its words are expanded, its redirections carried out, and its variables
set, in this order. -/
def simple (r : Runner) (line : Nat) (assignments : List (Octets × Word)) (words : List Word)
    (rs : List Redirection) : Run Unit := do
  modify fun s => { s with line, substituted := none }
  let fields ← Expansion.fields r.expand words
  let numbers := (← get).numbers
  let restore : Run Unit := modify fun s => { s with numbers }
  let isSpecial := fields.head?.any fun name => String.ofList name ∈ Builtin.special
  if !(← r.redirectAll rs) then
    restore
    if isSpecial then throw .fault
  else
    match fields with
    | [] =>
      let values ← r.assignAll assignments
      trace numbers values []
      restore
      modify fun s => { s with status := s.substituted.getD 0 }
    | name :: args =>
      let result ← Run.caught do
        let values ← assignments.mapM fun (name, word) =>
          return (name, ← Expansion.text r.expand word)
        trace numbers values fields
        r.named values name args
      -- redirections of a lone `exec` stay
      if !(fields = ["exec".toList]) then restore
      Run.resume result
  if !(← get).pending.isEmpty then Run.answer r.script
  Run.check

/-! ### Compound commands -/

/-- Runs commands of which each reads what the one before writes. -/
def pipeline (r : Runner) (input : Option Stream) : List Command → Run Unit
  | [] => pure ()
  | [last] => r.apart do
    input.forM fun stream => modify (State.connect 0 stream)
    r.command last
  | c :: rest => do
    let start := (← get).seconds
    let place := (← get).streams.size
    r.apart do
      modify (State.connect 1 (.sink []))
      input.forM fun stream => modify (State.connect 0 stream)
      r.command c
    modify State.settled
    let s ← get
    set { s with seconds := start }
    pipeline r (some (.source (s.written place))) rest
    modify fun t => { t with seconds := if t.seconds < s.seconds then s.seconds else t.seconds }

/-- Runs the commands of the first case with a pattern that fits. -/
def select (r : Runner) (subject : Octets) : List (List Word × Option Command) → Run Unit
  | [] => Run.setStatus 0
  | (patterns, body) :: rest => do
    let isMatch ← patterns.foldlM (fun found word => do
      if found then return true
      let atoms ← r.expand false (Expansion.withHome (← get) word)
      return Pattern.isMatch (Atom.pattern atoms) subject) false
    if isMatch then
      match body with
      | some c => r.command c
      | none => Run.setStatus 0
    else select r subject rest

/-- Runs the body of a loop for each value of a variable. -/
def overValues (r : Runner) (name : Octets) (body : Command) : List Octets → Run Unit
  | [] => pure ()
  | value :: rest => do
    Run.assign name value
    if ← Run.round (r.command body) then overValues r name body rest

/-- Runs a command. -/
def step (r : Runner) (c : Command) : Run Unit := do
  match c with
  | .simple line assignments words rs => r.simple line assignments words rs
  | .pipe commands =>
    r.pipeline none commands
    Run.check
  | .negate c =>
    Run.tested (r.command c)
    modify fun s => { s with status := if s.status = 0 then 1 else 0 }
  | .andThen first second =>
    Run.tested (r.command first)
    if (← get).status = 0 then r.command second
  | .orElse first second =>
    Run.tested (r.command first)
    if (← get).status != 0 then r.command second
  | .sequence first second =>
    r.command first
    r.command second
  | .background c => Run.beside (Run.ending r.script (r.command c))
  | .group body => r.command body
  | .subshell body =>
    r.apart (r.command body)
    Run.check
  | .choose condition body otherwise =>
    Run.tested (r.command condition)
    if (← get).status = 0 then r.command body
    else
      match otherwise with
      | some c => r.command c
      | none => Run.setStatus 0
  | .loop wanted condition body =>
    -- the status is that of the last round
    Run.inLoop do
      Run.setStatus 0
      Run.rounds (do
        let before := (← get).status
        Run.round do
          Run.tested (r.command condition)
          if ((← get).status = 0) != wanted then
            Run.setStatus before
            throw (.leaveLoops 1)
          r.command body) maxRounds
  | .forEach line name words body =>
    modify fun s => { s with line }
    let values ← match words with
      | some ws => Expansion.fields r.expand ws
      | none => pure (← get).parameters
    Run.setStatus 0
    Run.inLoop (r.overValues name body values)
  | .select line subject cases =>
    modify fun s => { s with line }
    r.select (← Expansion.text r.expand subject) cases
  | .define name body =>
    modify fun s => { s with functions := State.put name body s.functions, status := 0 }
  | .redirect body rs =>
    Run.withNumbers do
      if ← r.redirectAll rs then r.command body
    Run.check

end Runner

end Switchboard.Tools.Shell
