import Switchboard.Tools.Filter
import Switchboard.Tools.Shell.State

/-!
Where a shell finds files: the directories and the commands that every machine has, and the files that
the script itself has written.
-/
namespace Switchboard.Tools.Shell

/-- What stands at a path. -/
inductive FileKind where
  | directory
  | device
  | command (name : String)
  | plain (data : Octets)

/-- The directories that hold the commands. -/
def commandDirectories : List String := ["/usr/bin", "/bin"]

/-- The directories that there are. -/
def commonDirectories : List String :=
  ["/", "/usr", "/usr/local", "/usr/local/bin", "/tmp", "/var", "/var/tmp", "/etc", "/home", "/root",
    "/dev", "/proc", "/sys", "/opt", "/lib", "/sbin", "/usr/lib", "/usr/share", "/usr/sbin"]
    ++ commandDirectories

/-- The names of the commands that do not need the shell. -/
def ownCommands : List String := ["echo", "printf", "sh", "dash", "sleep", "true", "false", "test", "["]

/-- Whether there is a command of a name. -/
def isCommand (name : String) : Bool :=
  name ∈ ownCommands || (Filter.commands.lookup name).isSome

namespace State

/-- A path from the root, without steps that stay or go up. -/
def absolute (s : State) (path : Octets) : Octets :=
  let full := if path.head? = some '/' then path else s.directory ++ '/' :: path
  let steps := (Text.splitOn (· = '/') full).foldl (fun (done : List Octets) step =>
    if step.isEmpty || step = ['.'] then done
    else if step = ['.', '.'] then done.dropLast
    else done ++ [step]) []
  '/' :: Octets.join ['/'] steps

/-- The directory and the last name of a path from the root. -/
def splitLast (path : Octets) : Octets × Octets :=
  let last := (path.reverse.takeWhile (· != '/')).reverse
  let front := path.take (path.length - last.length - 1)
  (if front.isEmpty then ['/'] else front, last)

/-- What stands at a path. -/
def fileAt? (s : State) (path : Octets) : Option FileKind :=
  if path.isEmpty then none
  else
    let full := s.absolute path
    let text := String.ofList full
    let (directory, last) := splitLast full
    let name := String.ofList last
    if full = s.directory || text ∈ commonDirectories then some .directory
    else if text ∈ ["/dev/null", "/dev/zero", "/dev/tty"] then some .device
    else if String.ofList directory ∈ commandDirectories && isCommand name then some (.command name)
    else if text = "/etc/passwd" then some (.plain [])
    else (s.files.lookup full).map .plain

/-- Whether a file may be made at a path. -/
def mayHold (s : State) (path : Octets) : Bool :=
  match s.fileAt? (splitLast (s.absolute path)).1 with
  | some .directory => true
  | _ => false

/-- Where a command lies, along the search path. -/
def find? (s : State) (name : Octets) : Option Octets :=
  let path := (s.valueOf? "PATH".toList).getD "/usr/local/bin:/usr/bin:/bin".toList
  (Text.splitOn (· = ':') path).findSome? fun directory =>
    let file := (if directory.isEmpty then ['.'] else directory) ++ '/' :: name
    match s.fileAt? file with
    | some (.command _) => some file
    | _ => none

end State

end Switchboard.Tools.Shell
