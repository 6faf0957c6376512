import Switchboard.Config.Server
import Switchboard.Environment
import Switchboard.Files.Disk
import Switchboard.Log
import Switchboard.Yaml.Reader

/-!
The settings of a server from a file, in YAML or JSON, which YAML includes.

A file of variables beside it is read first; the environment may give the usual model and its address
where the settings give none. What settings do not say about their directory is the directory that
they lie in.
-/
namespace Switchboard.Config

/-- Why a file holds no settings. -/
inductive LoadError where
  | place (e : Files.PathFault)
  | missing (path : Files.Path)
  | unreadable (e : Files.ReadError)
  | variable (e : Environment.VariableError)
  | malformed (e : Yaml.ReadError)
  | notMapping (path : Files.Path)
  | invalid (faults : List Fault)

/-- The message for it; of what is invalid only the first line of the report. -/
def LoadError.message : LoadError → String
  | .place e => e.message
  | .missing path => "Config file not found: " ++ path.text
  | .unreadable e => e.message
  | .variable e => e.message
  | .malformed e => e.message
  | .notMapping path =>
    "Config file " ++ path.text ++ " must contain a mapping at the top level."
  | .invalid faults => headline faults

/-- Settings, and the environment that they are in force with. -/
structure Loaded where
  server : Server
  environment : Environment
  log : List LogLine

/-- The file of variables beside the settings. -/
def variablesName : String := ".env"

/-- The environment with the variables of the file beside the settings, unless it is not to be read. -/
def environmentFor (disk : Files.Disk) (environment : Environment) (path : Files.Path) :
    Except LoadError Environment := do
  let file : Files.Path := ⟨path.root, path.parts.dropLast ++ [variablesName]⟩
  if environment.ignoresFiles || !disk.isFile file then return environment
  let text ← (disk.readText file).mapError .unreadable
  (environment.withFile text).mapError .variable

/-- Puts the value of a variable under a key that has no value that counts. -/
def fallBack (environment : Environment) (name key : String) (data : List (Key × Value)) :
    List (Key × Value) :=
  match environment.value? name with
  | none => data
  | some v =>
    if ((Members.get? (.text key) data).getD .null).isSet then data
    else Members.insert (.text key) (.str v) data

/-- The mapping that a text of settings writes; an empty text is an empty mapping. -/
def readMembers (path : Files.Path) (text : String) : Except LoadError (List (Key × Value)) :=
  match Yaml.read .spaced text with
  | .error e => .error (.malformed e)
  | .ok .null => .ok []
  | .ok (.object members) => .ok members
  | .ok _ => .error (.notMapping path)

/-- A server with its directory made absolute, as seen from the directory of its settings. -/
def placed (directory : Files.Path) (s : Server) : Except Files.PathFault Server := do
  if s.directory.isAbsolute then return s
  return { s with directory := ← s.directory.absolute directory }

/-- Reads the settings from a file. -/
def load (disk : Files.Disk) (environment : Environment) (path : Files.Path) :
    Except LoadError Loaded := do
  if !disk.holds path then throw (.missing path)
  let environment ← environmentFor disk environment path
  let text ← (disk.readText path).mapError .unreadable
  let data ← readMembers path text
  let data := fallBack environment "OPENAI_BASE_URL" "default_base_url"
    (fallBack environment "OPENAI_MODEL" "default_model" data)
  match Server.read path.parent (.object data) with
  | .invalid faults => throw (.invalid faults)
  | .valid server =>
    let server ← (placed path.parent server).mapError .place
    let message := "Loaded " ++ toString server.endpoints.length ++ " endpoint(s) from " ++ path.text
    return ⟨server, environment, [⟨.info, .settings, message⟩]⟩

end Switchboard.Config
