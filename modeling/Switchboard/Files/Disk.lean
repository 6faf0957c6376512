import Switchboard.Files.Path
import Switchboard.Text.Quoted
import Switchboard.Text.Utf8

/-!
The files that settings and prompts are read from: a directory tree as data, and the reading of texts
from it.
-/
namespace Switchboard.Files

/-- Files with their contents. The directory `root` is there even when it is empty. -/
structure Disk where
  root : Path
  files : List (Path × List UInt8)

/-- Why a text cannot be read from a file. -/
inductive ReadError where
  | missing (path : Path)
  | directory (path : Path)
  | belowFile (path : Path)
  | notText (fault : Text.Utf8.Fault)
  deriving DecidableEq

/-- The message for it. -/
def ReadError.message : ReadError → String
  | .missing path => "[Errno 2] No such file or directory: " ++ Text.quoted path.text
  | .directory path => "[Errno 21] Is a directory: " ++ Text.quoted path.text
  | .belowFile path => "[Errno 20] Not a directory: " ++ Text.quoted path.text
  | .notText fault => fault.message

/-- A text with every line end written as one line feed. -/
def unifyLineEnds : List Char → List Char
  | '\r' :: '\n' :: rest => '\n' :: unifyLineEnds rest
  | '\r' :: rest => '\n' :: unifyLineEnds rest
  | c :: rest => c :: unifyLineEnds rest
  | [] => []

namespace Disk

/-- The content of a file. -/
def content? (d : Disk) (path : Path) : Option (List UInt8) := d.files.lookup path.normal

/-- Whether a path leads to a file. -/
def isFile (d : Disk) (path : Path) : Bool := (d.content? path).isSome

/-- Whether a path leads to a directory: one that holds the root or a file. -/
def isDirectory (d : Disk) (path : Path) : Bool :=
  d.root.normal.isWithin path.normal
    || d.files.any fun (file, _) => file != path.normal && file.isWithin path.normal

/-- Whether a path leads to anything. -/
def holds (d : Disk) (path : Path) : Bool := d.isFile path || d.isDirectory path

/-- The text of a file. -/
def readText (d : Disk) (path : Path) : Except ReadError String :=
  match d.content? path with
  | some bytes =>
    match Text.Utf8.read bytes with
    | .ok cs => .ok (String.ofList (unifyLineEnds cs))
    | .error fault => .error (.notText fault)
  | none =>
    if d.isDirectory path then .error (.directory path)
    else if d.files.any fun (file, _) => path.normal.isWithin file then .error (.belowFile path)
    else .error (.missing path)

end Disk

end Switchboard.Files
