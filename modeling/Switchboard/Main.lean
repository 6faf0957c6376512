import Switchboard.CommandLine.Start
import Switchboard.Example
import Switchboard.Tools.Catalog

/-!
The program. It reads the files in the directory of the settings, runs the command, and then answers
requests from its input, one a line, until the input ends.
-/
namespace Switchboard.Main

/-- The files in a directory and below it; what cannot be read is left out. -/
partial def readEntries (path : Files.Path) (entries : Array IO.FS.DirEntry) :
    IO (List (Files.Path × List UInt8)) := do
  let mut files := []
  for entry in entries do
    let place := path.under (.read entry.fileName)
    if ← entry.path.isDir then
      files := files ++ (← readEntries place (← entry.path.readDir))
    else
      try
        let content ← IO.FS.readBinFile entry.path
        files := files ++ [(place, content.toList)]
      catch _ => pure ()
  return files

/-- The variables of the environment. -/
def readEnvironment : IO Environment := do
  let content ← IO.FS.readBinFile "/proc/self/environ"
  let lines := Text.splitOn (· = '\x00') (Text.Utf8.decodeLenient content.toList)
  return lines.filterMap fun line =>
    let name := line.takeWhile (· != '=')
    if name.length = line.length then none
    else some (String.ofList name, String.ofList (line.drop (name.length + 1)))

/-- The surroundings of the program, with the files around the settings. -/
def readSite (arguments : List String) : IO Site := do
  let current ← IO.currentDir
  let directory := Files.Path.read current.toString
  let bare : Site :=
    { directory, homes := [], disk := ⟨directory, []⟩, environment := ← readEnvironment
      library := Example.library directory, command := Tools.find? }
  let named := match CommandLine.read arguments with
    | .ok a => a.config
    | .error _ => CommandLine.Arguments.default.config
  let config := match bare.locate (.read named) with
    | .ok path => path
    | .error _ => directory
  let place := current / config.parent.text
  if ← place.isDir then
    let files ← readEntries config.parent (← place.readDir)
    return { bare with
      disk := ⟨config.parent, files⟩, library := Example.library config.parent }
  return bare

/-- Writes lines of the log. -/
def writeLog (log : List LogLine) : IO Unit :=
  log.forM fun line => IO.eprintln (line.level.word ++ " " ++ line.message)

/-- There is no way to a model from here. -/
def noModels : Service Unit := fun _ _ state => (.error "no model can be reached", state)

/-- Answers requests from the input until it ends. -/
partial def answerRequests (s : CommandLine.Serving) (input : IO.FS.Stream) : IO Unit := do
  let line ← input.getLine
  if line.isEmpty then return
  let host := s.host ++ ":" ++ toString s.port
  let line := String.ofList (line.toList.filter fun c => c != '\n' && c != '\r')
  let ((response, log), _) := s.app.handle noModels (.ofLine host line) (.start ())
  let response := match response with
    | .ok response => response
    | .error _ => .serverError
  writeLog (s.level.filter log)
  IO.println (toString response.status ++ " " ++ response.body)
  answerRequests s input

end Switchboard.Main

/-- Runs the program. -/
def main (arguments : List String) : IO UInt32 := do
  let site ← Switchboard.Main.readSite arguments
  let outcome := Switchboard.CommandLine.run site arguments
  Switchboard.Main.writeLog outcome.log
  IO.print outcome.ending.output
  match outcome.ending with
  | .checked _ => return 0
  | .exited status => return status.toUInt32
  | .broken obstacle =>
    IO.eprintln obstacle.message
    return 1
  | .serving s =>
    Switchboard.Main.answerRequests s (← IO.getStdin)
    return 0
