import Switchboard.Tools.Shell

/-!
The commands that tools can run.
-/
namespace Switchboard.Tools

/-- A command, given its arguments. -/
abbrev Command := List String → Outcome

/-- The directories that hold the commands. -/
def directories : List String := Shell.commandDirectories

/-- A command that reads nothing, called by a name. -/
def filter (run : Filter.Call → List Octets → Outcome) (name : Octets) (args : List Octets) :
    Outcome :=
  run ⟨name, fun _ => .error "No such file or directory", []⟩ args

/-- The commands by name; each is told the path that it is called by. -/
def commands (environment : Environment) : List (String × (Octets → List Octets → Outcome)) :=
  [("echo", fun _ => Echo.run), ("printf", Printf.run), ("sh", Shell.run environment),
    ("dash", Shell.run environment), ("sleep", Sleep.run), ("true", fun _ _ => .silent 0),
    ("false", fun _ _ => .silent 1)]
    ++ Filter.commands.map fun (name, run) => (name, filter run)

/-- A directory without slashes at its end. -/
def directoryName (cs : List Char) : String :=
  String.ofList (cs.reverse.dropWhile (· = '/')).reverse

/-- The command of a name in a directory. -/
def findIn (environment : Environment) (directory : String) (name : String) : Option Command := do
  let command ← (commands environment).lookup name
  if directory ∈ directories then
    some fun args => command (Octets.ofText (directory ++ "/" ++ name)) (args.map Octets.ofText)
  else none

/-- The directories in which commands are looked for, which colons separate in the search path. -/
def searchPath (environment : Environment) : List String :=
  let path := (environment.get? "PATH").getD "/bin:/usr/bin"
  (Text.splitOn (· = ':') path.toList).map directoryName

/-- The command of a name, or at a path. -/
def find? (environment : Environment) (name : String) : Option Command :=
  let cs := name.toList
  if cs.contains '/' then
    let last := (cs.reverse.takeWhile (· != '/')).reverse
    findIn environment (directoryName (cs.take (cs.length - last.length))) (String.ofList last)
  else (searchPath environment).findSome? fun directory => findIn environment directory name

end Switchboard.Tools
