import Switchboard.Tools.Echo
import Switchboard.Tools.Printf
import Switchboard.Tools.Shell.Condition
import Switchboard.Tools.Shell.Expansion

/-!
The commands that belong to the shell itself, but for those that run a script.

Such a command gives its status. A fault ends the command; it also ends the script if the command is
one of the special ones.
-/
namespace Switchboard.Tools.Shell.Builtin

/-- The complaint of a command, as a fault. -/
def fault {α : Type} (why : String) : Run α := Run.fault (Octets.ofText why) 2

/-- A number that is not negative. -/
def number (arg : Octets) : Run Nat := do
  if !arg.isEmpty && arg.all Text.isDigit && Text.digitsValue arg < Nat.pow 2 31 then
    return Text.digitsValue arg
  else Run.fault ("Illegal number: ".toList ++ arg) 2

/-- Writes an outcome's outputs, and gives its status. -/
def finish (o : Outcome) : Run Int := do
  Run.write 1 o.output
  Run.write 2 o.complaints
  modify fun s => { s with seconds := s.seconds + o.seconds }
  return o.status

/-- A text in single quotes, as lists of variables show it. -/
def quoted (value : Octets) : Octets :=
  ['\x27'] ++ value.flatMap (fun c => if c = '\x27' then "'\"'\"'".toList else [c]) ++ ['\x27']

/-! ### Variables -/

/-- A name and the value behind an equals sign, if there is one. -/
def splitAssignment (arg : Octets) : Octets × Option Octets :=
  let name := arg.takeWhile (· != '=')
  match arg.drop name.length with
  | _ :: value => (name, some value)
  | [] => (name, none)

/-- Marks variables, and sets those with a value. -/
def mark (change : Variable → Variable) (args : List Octets) : Run Int := do
  args.forM fun arg => do
    let (name, value) := splitAssignment arg
    if !Octets.isName name then Run.fault (arg ++ ": bad variable name".toList) 2
    match value with
    | some v => Run.assign name v
    | none => pure ()
    modify fun s =>
      let old := (s.bindings.lookup name).getD ⟨none, false, false⟩
      { s with bindings := State.put name (change old) s.bindings }
  return 0

/-- Shows the variables that are marked. -/
def showMarked (command : Octets) (isMarked : Variable → Bool) : Run Int := do
  let shown := (← get).bindings.filter fun (_, v) => isMarked v
  let lines := (shown.map fun (name, v) => command ++ ' ' :: name ++ (match v.value with
    | some value => '=' :: quoted value
    | none => [])).mergeSort Octets.isAtMost
  Run.write 1 (Filter.unlines lines)
  return 0

/-- Makes variables of the function that runs. -/
def localize (args : List Octets) : Run Int := do
  args.forM fun arg => do
    match (← get).locals with
    | none => fault "not in a function"
    | some saved =>
      let (name, value) := splitAssignment arg
      if !Octets.isName name then
        Run.fault (arg ++ ": bad variable name".toList) 2
      modify fun s => { s with locals := some ((name, s.bindings.lookup name) :: saved) }
      match value with
      | some v => Run.assign name v
      | none => pure ()
  return 0

/-- Takes variables or functions away. -/
def unset (args : List Octets) : Run Int := do
  let (os, names) := Filter.options [] args
  let ofFunctions := os.any (·.1 = 'f')
  names.forM fun name => do
    let s ← get
    if ofFunctions then
      set { s with functions := s.functions.filter (·.1 != name) }
    else if !Octets.isName name then
      Run.fault (name ++ ": bad variable name".toList) 2
    else if ((s.bindings.lookup name).map Variable.isFixed).getD false then
      Run.fault (name ++ ": is read only".toList) 2
    else set { s with bindings := s.bindings.filter (·.1 != name) }
  return 0

/-- The letters of the options that have long names. -/
def longOptions : List (String × Char) :=
  [("errexit", 'e'), ("noglob", 'f'), ("nounset", 'u'), ("xtrace", 'x'), ("verbose", 'v'),
    ("noexec", 'n'), ("allexport", 'a'), ("noclobber", 'C'), ("ignoreeof", 'I'), ("interactive", 'i'),
    ("monitor", 'm'), ("stdin", 's'), ("vi", 'V'), ("emacs", 'E'), ("notify", 'b'), ("nolog", 'l'),
    ("debug", 'd')]

/-- The letters of options. -/
def optionLetters : List Char := "efuxvnaCIimsVEbpq".toList

/-- Sets or clears an option. -/
def setOption (isSet : Bool) (letter : Char) (s : State) : State :=
  let others := s.options.filter (· != letter)
  { s with options := if isSet then others ++ [letter] else others }

/-- Sets options and parameters. -/
def setParameters : List Octets → Run Int
  | [] => do
    let lines := ((← get).bindings.filterMap fun (name, v) =>
      v.value.map fun value => name ++ '=' :: quoted value).mergeSort Octets.isAtMost
    Run.write 1 (Filter.unlines lines)
    return 0
  | args => go args
where
  /-- Takes the options in front. Without other arguments the parameters stay. -/
  go : List Octets → Run Int
    | [] => return 0
    | ['-', '-'] :: rest => do
      modify fun s => { s with parameters := rest }
      return 0
    | ['-'] :: rest => do
      if !rest.isEmpty then modify fun s => { s with parameters := rest }
      return 0
    | arg :: rest =>
      match arg with
      | sign :: letters =>
        if (sign = '-' || sign = '+') && !letters.isEmpty then do
          if letters = ['o'] then long sign rest
          else
            letters.forM fun letter => do
              if letter ∈ optionLetters then modify (setOption (sign = '-') letter)
              else Run.fault ("Illegal option ".toList ++ [sign, letter]) 2
            go rest
        else keep (arg :: rest)
      | [] => keep (arg :: rest)
  /-- Sets an option by its long name. -/
  long (sign : Char) : List Octets → Run Int
    | [] => return 0
    | name :: rest => do
      match longOptions.lookup (String.ofList name) with
      | some letter => modify (setOption (sign = '-') letter)
      | none => Run.fault ("Illegal option ".toList ++ [sign] ++ "o ".toList ++ name) 2
      if rest.isEmpty then return 0 else keep rest
  /-- Sets the parameters. -/
  keep (args : List Octets) : Run Int := do
    modify fun s => { s with parameters := args }
    return 0

/-- Drops parameters in front. -/
def shift (args : List Octets) : Run Int := do
  let count ← match args with
    | arg :: _ => number arg
    | [] => pure 1
  if count > (← get).parameters.length then fault "can't shift that many"
  modify fun s => { s with parameters := s.parameters.drop count }
  return 0

/-! ### Reading -/

/-- A line of a text, with escapes taken away unless it is raw; whether a line feed ended it; and the
rest. An escaped character is marked. -/
def takeLine (raw : Bool) : (fuel : Nat) → Octets → List Pattern.Mark × Bool × Octets
  | 0, cs => ([], false, cs)
  | _, [] => ([], false, [])
  | _ + 1, '\n' :: rest => ([], true, rest)
  | fuel + 1, c :: rest =>
    if c = '\\' && !raw then
      match rest with
      | [] => ([], false, [])
      | '\n' :: rest => takeLine raw fuel rest
      | d :: rest =>
        let (line, ended, rest) := takeLine raw fuel rest
        ((d, true) :: line, ended, rest)
    else
      let (line, ended, rest) := takeLine raw fuel rest
      ((c, false) :: line, ended, rest)

/-- Cuts a line into so many values; the last one takes what is left. -/
def cutLine (separators : Octets) : (count : Nat) → List Pattern.Mark → List Octets
  | 0, _ => []
  | count + 1, line =>
    let isBlank (m : Pattern.Mark) : Bool := !m.2 && m.1 ∈ separators && Octets.isSpace m.1
    let isMark (m : Pattern.Mark) : Bool := !m.2 && m.1 ∈ separators && !Octets.isSpace m.1
    let line := line.dropWhile isBlank
    let word := line.takeWhile fun m => !isBlank m && !isMark m
    let after := (line.drop word.length).dropWhile isBlank
    let after := match after with
      | m :: rest => if isMark m then rest else after
      | [] => []
    if count = 0 then
      -- a single separator behind the last word goes, but no other
      let kept := (line.reverse.dropWhile isBlank).reverse
      [(if after.isEmpty then word else kept).map (·.1)]
    else word.map (·.1) :: cutLine separators count after

/-- Reads a line of the input into variables. -/
def read (args : List Octets) : Run Int := do
  let (os, names) := Filter.options ['p'] args
  if names.isEmpty then fault "arg count"
  let data ← Run.input 0
  let (line, ended, rest) := takeLine (os.any (·.1 = 'r')) (data.length + 1) data
  Run.setInput 0 rest
  let values := cutLine (← get).separators names.length line
  (names.zip values).forM fun (name, value) => do
    if !Octets.isName name then
      Run.fault (name ++ ": bad variable name".toList) 2
    Run.assign name value
  return if ended then 0 else 1

/-! ### Places, commands and signals -/

/-- Goes to a directory. -/
def changeDirectory (args : List Octets) : Run Int := do
  let s ← get
  let args := match args with
    | ['-', '-'] :: rest | ['-', 'P'] :: rest | ['-', 'L'] :: rest => rest
    | args => args
  let target := match args with
    | ['-'] :: _ => (s.valueOf? "OLDPWD".toList).getD s.directory
    | path :: _ => path
    | [] => (s.valueOf? "HOME".toList).getD []
  match s.fileAt? target with
  | some .directory =>
    let full := s.absolute target
    if args.head? = some ['-'] then Run.write 1 (full ++ ['\n'])
    Run.assign "OLDPWD".toList s.directory
    Run.assign "PWD".toList full
    modify fun s => { s with directory := full }
    return 0
  | _ =>
    if target.isEmpty then return 0
    Run.fault ("can't cd to ".toList ++ target) 2

/-- The commands of the shell that end the script if they fail. -/
def special : List String := specialNames

/-- The other commands of the shell. -/
def regular : List String :=
  ["true", "false", "echo", "printf", "test", "[", "cd", "pwd", "read", "kill", "umask",
    "type", "command", "wait", "alias", "unalias", "hash", "jobs", "ulimit"]

/-- What a name is to the shell, if anything: a keyword, a function, a command of its own, or one that
lies somewhere. -/
inductive Meaning where
  | keyword
  | function
  | ofShell (isSpecial : Bool)
  | at (path : Octets)

/-- The meaning of a name. -/
def meaning? (s : State) (name : Octets) : Option Meaning :=
  let text := String.ofList name
  if text ∈ keywords then some .keyword
  else if (s.functions.lookup name).isSome then some .function
  else if text ∈ special then some (.ofShell true)
  else if text ∈ regular then some (.ofShell false)
  else if '/' ∈ name then
    match s.fileAt? name with
    | some (.command _) => some (.at name)
    | _ => none
  else (s.find? name).map .at

/-- Says what names mean: a word for each, or a sentence. -/
def explain (isBrief : Bool) (names : List Octets) : Run Int := do
  let results ← names.mapM fun name => do
    match meaning? (← get) name with
    | some m =>
      let line := match m with
        | .at path => if isBrief then path else name ++ " is ".toList ++ path
        | .keyword => if isBrief then name else name ++ " is a shell keyword".toList
        | .function => if isBrief then name else name ++ " is a shell function".toList
        | .ofShell isSpecial =>
          if isBrief then name
          else name ++ (if isSpecial then " is a special shell builtin" else " is a shell builtin").toList
      Run.write 1 (line ++ ['\n'])
      return true
    | none =>
      if !isBrief then Run.write 1 (name ++ ": not found\n".toList)
      return false
  return if results.all id then 0 else 127

/-- The numbers of signals. -/
def signals : List (String × Int) :=
  [("HUP", 1), ("INT", 2), ("QUIT", 3), ("ILL", 4), ("TRAP", 5), ("ABRT", 6), ("BUS", 7), ("FPE", 8),
    ("KILL", 9), ("USR1", 10), ("SEGV", 11), ("USR2", 12), ("PIPE", 13), ("ALRM", 14), ("TERM", 15)]

/-- The signal of a name or a number. -/
def signal? (arg : Octets) : Option Int :=
  if !arg.isEmpty && arg.all Text.isDigit then
    if Text.digitsValue arg < 65 then some (Text.digitsValue arg : Nat) else none
  else signals.lookup (String.ofList (arg.map Char.toUpper))

/-- Lets a signal reach the shell, which it ends unless something else is to be run. -/
def receive (n : Int) : Run Unit := do
  match (← get).traps.lookup n with
  | some action =>
    if n = 9 then throw (.signal n)
    if !action.isEmpty then modify fun s => { s with pending := s.pending ++ [n] }
  | none => if n != 0 then throw (.signal n)

/-- Sends a signal. Only the shell itself can be reached. -/
def kill (args : List Octets) : Run Int := do
  let (signal, targets, refusal) : Option Int × List Octets × Octets := match args with
    | ['-', 's'] :: name :: rest =>
      (signal? name, rest, "invalid signal number or name: ".toList ++ name)
    | ('-' :: c :: name) :: rest => (signal? (c :: name), rest, "Illegal option -".toList ++ [c])
    | rest => (some 15, rest, [])
  match signal, targets with
  | some n, target :: _ =>
    if target = State.processNumber then
      receive n
      return 0
    else if target.all Text.isDigit then
      Run.complain "No such process".toList
      return 1
    else Run.fault ("Illegal number: ".toList ++ target) 2
  | none, _ => Run.fault refusal 2
  | _, [] =>
    fault
      "Usage: kill [-s sigspec | -signum | -sigspec] [pid | job]... or\nkill -l [exitstatus]"

/-- Says what is to be run when signals come, or shows it. -/
def trap (args : List Octets) : Run Int := do
  let nameOf (n : Int) : Octets :=
    if n = 0 then "EXIT".toList
    else ((signals.find? (·.2 = n)).map fun s => s.1.toList).getD (Octets.ofInt n)
  let numberOf? (arg : Octets) : Option Int :=
    if arg = "EXIT".toList then some 0 else signal? arg
  let args := if args.head? = some ['-', '-'] then args.tail else args
  match args with
  | [] =>
    let inOrder := (← get).traps.mergeSort fun a b => a.1 ≤ b.1
    Run.write 1 (Filter.unlines (inOrder.map fun (n, action) =>
      "trap -- ".toList ++ quoted action ++ ' ' :: nameOf n))
    return 0
  | first :: rest =>
    -- a lone signal, and a number in front, put things back
    let (action, names) : Option Octets × List Octets :=
      if rest.isEmpty || (!first.isEmpty && first.all Text.isDigit) then (none, args)
      else (if first = ['-'] then none else some first, rest)
    let results ← names.mapM fun name => do
      match numberOf? name with
      | some n =>
        modify fun s => { s with
          traps := (action.map fun a => (n, a)).toList ++ s.traps.filter (·.1 != n) }
        return true
      | none =>
        Run.write 2 ("trap: ".toList ++ name ++ ": bad trap\n".toList)
        return false
    return if results.all id then 0 else 1

/-- Runs a command of the shell that runs no script. -/
def run (name : Octets) (args : List Octets) : Run Int := do
  let s ← get
  match String.ofList name with
  | "wait" =>
    modify State.settled
    let s ← get
    match args with
    | [] => return 0
    | pid :: _ =>
      let n := Text.digitsValue pid
      return if n < 2 then 127
        else ((s.jobs.reverse[n - 2]?).map Job.status).getD 127
  | ":" | "true" | "times" | "alias" | "unalias" | "hash" | "jobs" | "ulimit" => return 0
  | "false" => return 1
  | "echo" =>
    Run.write 1 (Echo.inShell args)
    return 0
  | "printf" => finish (Printf.inShell (s.complainant.take (s.complainant.length - 2)) args)
  | "test" | "[" =>
    let (status, why) := Condition.run s name args
    why.forM Run.complain
    return status
  | "cd" => changeDirectory args
  | "pwd" =>
    Run.write 1 (s.directory ++ ['\n'])
    return 0
  | "read" => read args
  | "local" => localize args
  | "kill" => kill args
  | "umask" =>
    if args.isEmpty then Run.write 1 "0022\n".toList
    return 0
  | "type" => explain false args
  | "export" =>
    match args with
    | [] | [['-', 'p']] => showMarked name Variable.isExported
    | args => mark (fun v => { v with isExported := true }) args
  | "readonly" =>
    match args with
    | [] | [['-', 'p']] => showMarked name Variable.isFixed
    | args => mark (fun v => { v with isFixed := true }) args
  | "unset" => unset args
  | "set" => setParameters args
  | "shift" => shift args
  | "trap" => trap args
  | _ => return 127

end Switchboard.Tools.Shell.Builtin
