import Switchboard.Text.Blank

/-!
File paths as texts: their parts, their normal form, and the directory that bounds the files which
settings may refer to. Paths are compared by their parts, so a directory does not contain a sibling
whose name merely starts like its own.
-/
namespace Switchboard.Files

/-- A path: what stands in front of the first part (nothing, one slash or two), and the parts, with
empty parts and single dots left out. -/
structure Path where
  root : String
  parts : List String
  deriving DecidableEq

namespace Path

/-- Reads a path. Exactly two slashes at the start are kept; more count as one. -/
def read (s : String) : Path :=
  let cs := s.toList
  let slashes := (cs.takeWhile (· = '/')).length
  let root := if slashes = 2 then "//" else if slashes = 0 then "" else "/"
  let parts := (Text.splitOn (· = '/') cs).map String.ofList
  ⟨root, parts.filter fun p => p != "" && p != "."⟩

/-- A path as text; the path without parts is a single dot. -/
def text (p : Path) : String :=
  if p.root.isEmpty && p.parts.isEmpty then "." else p.root ++ Text.join "/" p.parts

/-- Whether a path starts at the root. -/
def isAbsolute (p : Path) : Bool := !p.root.isEmpty

/-- A path seen from a directory: an absolute path stays. -/
def under (directory p : Path) : Path :=
  if p.isAbsolute then p else ⟨directory.root, directory.parts ++ p.parts⟩

/-- Takes parts one by one, latest first in `done`; two dots take the last one back. -/
def collapse (done : List String) : List String → List String
  | [] => done.reverse
  | part :: rest => if part = ".." then collapse done.tail rest else collapse (part :: done) rest

/-- The normal form of an absolute path: one slash in front, and no double dots. -/
def normal (p : Path) : Path := ⟨"/", collapse [] p.parts⟩

/-- The directory that a path lies in. -/
def parent (p : Path) : Path := ⟨p.root, p.parts.dropLast⟩

/-- Whether a path is `directory` or lies below it. -/
def isWithin (p directory : Path) : Bool :=
  p.root == directory.root && directory.parts.isPrefixOf p.parts

/-- The last part. -/
def name (p : Path) : String := p.parts.getLast?.getD ""

end Path

/-- The directories that words with a tilde stand for: the tilde alone, and those that name an
account. -/
abbrev Homes := List (String × Path)

/-- Why a path has no absolute form. -/
inductive PathFault where
  | noHome
  | nul
  deriving DecidableEq

/-- The message for it. -/
def PathFault.message : PathFault → String
  | .noHome => "Could not determine home directory."
  | .nul => "embedded null byte"

namespace Path

/-- Whether a text holds the character U+0000, which no file name does. -/
def holdsNul (s : String) : Bool := s.contains '\x00'

/-- A path with a home directory in place of a first part with a tilde. A home that starts with a
tilde itself is none. -/
def expandHome (p : Path) (homes : Homes) : Except PathFault Path :=
  match p.parts with
  | first :: rest =>
    if p.isAbsolute || !first.startsWith "~" then .ok p
    else if holdsNul first then .error .nul
    else
      match homes.lookup first with
      | some home =>
        if home.text.startsWith "~" then .error .noHome
        else .ok ⟨home.root, home.parts ++ rest⟩
      | none => .error .noHome
  | [] => .ok p

/-- The absolute path in its normal form, seen from a directory. -/
def absolute (p directory : Path) : Except PathFault Path :=
  let whole := directory.under p
  if whole.parts.any holdsNul then .error .nul else .ok whole.normal

/-- The absolute path that a path means where a tilde counts. -/
def locate (p : Path) (homes : Homes) (directory : Path) : Except PathFault Path := do
  (← p.expandHome homes).absolute directory

end Path

/-- Why a file reference is denied. -/
inductive Denial where
  | noDirectory
  | outside (path root : Path)
  | fault (e : PathFault)
  deriving DecidableEq

/-- The message for it. -/
def Denial.message : Denial → String
  | .noDirectory => "No base directory configured; file references are denied."
  | .outside path root =>
    "Path " ++ path.text ++ " is outside base directory " ++ root.text ++ "."
  | .fault e => e.message

/-- The directory that file references of settings have to stay inside, or why they are denied
whatever they are. -/
structure Boundary where
  root : Except Denial Path

namespace Boundary

/-- The boundary without a directory: all references are denied. -/
def closed : Boundary := ⟨.error .noDirectory⟩

/-- The boundary at a directory, with a tilde at its start expanded; a relative one is seen from where
the program was started. -/
def ofDirectory (homes : Homes) (start directory : Path) : Boundary :=
  ⟨(directory.locate homes start).mapError .fault⟩

/-- The file that a reference means, if it lies inside. A relative reference is seen from the
directory; a tilde counts only at the start of a path, so never in a reference. -/
def resolve (b : Boundary) (reference : String) : Except Denial Path := do
  let root ← b.root
  let path ← ((Path.read reference).absolute root).mapError .fault
  if path.isWithin root then return path else throw (.outside path root)

end Boundary

end Switchboard.Files
