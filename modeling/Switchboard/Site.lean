import Switchboard.Environment
import Switchboard.Files.Disk
import Switchboard.Functions.Library
import Switchboard.Tools.Octets

/-!
What a server finds where it runs: the directory it is started in, files, variables, functions and
commands.
-/
namespace Switchboard

/-- The surroundings of a server. The homes are those of other accounts. -/
structure Site where
  directory : Files.Path
  homes : Files.Homes
  disk : Files.Disk
  environment : Environment
  library : Functions.Library
  command : Environment → (name : String) → Option (List String → Tools.Outcome)

namespace Site

/-- The directory that a tilde stands for: the one that the environment names, without slashes at its
end. -/
def home (s : Site) : Files.Path :=
  match s.environment.get? "HOME" with
  | some text => .read (if text.toList.all (· = '/') then "/" else text)
  | none => .read "/"

/-- The absolute path that a path means here. -/
def locate (s : Site) (path : Files.Path) : Except Files.PathFault Files.Path :=
  path.locate (("~", s.home) :: s.homes) s.directory

/-- The boundary of the files that settings of a directory may refer to. -/
def boundary (s : Site) (directory : Files.Path) : Files.Boundary :=
  .ofDirectory (("~", s.home) :: s.homes) s.directory directory

/-- The command of a name. -/
def commandOf (s : Site) (name : String) : Option (List String → Tools.Outcome) :=
  s.command s.environment name

end Site

end Switchboard
