import Switchboard.CommandLine.Arguments
import Switchboard.Config.Load
import Switchboard.Http.App

/-!
What the command line does: it reads the settings and either checks them or starts to serve.

Settings that cannot be served are reported in the log, and the command ends with status one. What is
wrong in another way than a value that does not fit, a file that is not there or one that is not
allowed is not reported, but breaks the command off.
-/
namespace Switchboard

/-- Whether trouble is reported: only that with a value that does not fit. -/
def Trouble.isReported : Trouble → Bool
  | .argument => true
  | _ => false

/-- Whether it is reported that a file cannot be read. -/
def Files.ReadError.isReported : Files.ReadError → Bool
  | .missing _ | .notText _ => true
  | .directory _ | .belowFile _ => false

/-- Whether it is reported that a path has no absolute form. -/
def Files.PathFault.isReported : Files.PathFault → Bool
  | .noHome => false
  | .nul => true

/-- Whether it is reported that a file may not be used. -/
def Files.Denial.isReported : Files.Denial → Bool
  | .noDirectory | .outside _ _ => true
  | .fault e => e.isReported

/-- Whether it is reported that a text is no YAML. -/
def Yaml.ReadError.isReported : Yaml.ReadError → Bool
  | .fault _ => false
  | .scalar e => e.trouble.isReported

/-- Whether it is reported that a file holds no settings. -/
def Config.LoadError.isReported : Config.LoadError → Bool
  | .unreadable e => e.isReported
  | .malformed e => e.isReported
  | .place e => e.isReported
  | .missing _ | .variable _ | .notMapping _ | .invalid _ => true

/-- Whether it is reported that a file is no prompt. -/
def Prompt.DocumentError.isReported : Prompt.DocumentError → Bool
  | .unreadable e => e.isReported
  | .yaml e => e.isReported
  | .json _ _ | .empty _ => true
  | .reserved _ | .keyKind => false

/-- Whether it is reported that a prompt has no agent. -/
def Prompt.AgentError.isReported : Prompt.AgentError → Bool
  | .document e => e.isReported
  | .denied e => e.isReported
  | .noKey _ => true
  | .variableKind _ => false

/-- Whether it is reported that a document could not be told to be a schema or not. -/
def Schema.Interruption.isReported : Schema.Interruption → Bool
  | .pattern .contradictorySwitches | .pattern (.longNumber _) | .badPosition _ | .longPosition _
  | .undefinedQuotient => true
  | _ => false

/-- Whether it is reported that an endpoint cannot be put into service. -/
def BuildError.isReported : BuildError → Bool
  | .agent e => e.isReported
  | .function _ _ | .noCommand _ _ => true
  | .checking why => why.isReported
  | .notFunction _ | .inputSchema _ | .outputSchema _ => false

/-- Whether it is reported that a server cannot start. -/
def Http.StartError.isReported : Http.StartError → Bool
  | .calls _ => true
  | .build e => e.isReported
  | .pattern (.repeated _ _) => true
  | .pattern (.unknownKind _) | .unregistered _ => false

namespace CommandLine

/-- What keeps the command from its work. -/
inductive Obstacle where
  | settings (e : Config.LoadError)
  | start (e : Http.StartError)

/-- The message for it. -/
def Obstacle.message : Obstacle → String
  | .settings e => e.message
  | .start e => e.message

/-- Whether it is reported. -/
def Obstacle.isReported : Obstacle → Bool
  | .settings e => e.isReported
  | .start e => e.isReported

/-- A server that is to listen at an address. -/
structure Serving where
  app : Http.App
  host : String
  port : Int
  level : Level

/-- How the command ends. -/
inductive Ending where
  | checked (endpoints : Nat)
  | serving (s : Serving)
  | exited (status : Nat)
  | broken (obstacle : Obstacle)

/-- What the command comes to: how it ends, and what it has written to the log. -/
structure Outcome where
  ending : Ending
  log : List LogLine

/-- What the command prints. -/
def Ending.output : Ending → String
  | .checked endpoints => "OK: " ++ toString endpoints ++ " endpoint(s)\n"
  | _ => ""

/-- The end of a command that an obstacle stops. -/
def stopped (obstacle : Obstacle) (log : List LogLine) : Outcome :=
  if obstacle.isReported then
    ⟨.exited 1, log ++ [⟨.error, .commandLine, "Startup failed: " ++ obstacle.message⟩]⟩
  else ⟨.broken obstacle, log⟩

/-- The level that a word of the arguments or of the settings means; an empty word means the usual
one. -/
def levelOf (word : String) : Level := Level.ofWord word

/-- Starts to serve. -/
def serve (site : Site) (a : Arguments) (server : Config.Server) (level : Level)
    (log : List LogLine) : Outcome :=
  match Http.App.create site server .empty with
  | (.error e, started) => stopped (.start e) (log ++ level.filter started)
  | (.ok app, started) =>
    let host := match a.host with
      | some host => if host.isEmpty then server.host else host
      | none => server.host
    let port := a.port.getD server.port
    let line : LogLine := ⟨.info, .commandLine,
      "Serving " ++ toString server.endpoints.length ++ " endpoint(s) on http://" ++ host ++ ":"
        ++ toString port⟩
    ⟨.serving ⟨app, host, port, level⟩, log ++ level.filter (started ++ [line])⟩

/-- Checks the settings of a server without starting it. -/
def check (server : Config.Server) (level : Level) (log : List LogLine) : Outcome :=
  match Http.checkCalls server with
  | (.error e, checked) => stopped (.start e) (log ++ level.filter checked)
  | (.ok _, checked) => ⟨.checked server.endpoints.length, log ++ level.filter checked⟩

/-- Follows the arguments. Until the settings are read, the log has the level of the arguments; then
that of the settings, unless the arguments give one. -/
def perform (site : Site) (a : Arguments) : Outcome :=
  let first := levelOf (a.logLevel.getD "info")
  let loaded : Except Config.LoadError Config.Loaded := do
    let path ← (site.locate (.read a.config)).mapError Config.LoadError.place
    Config.load site.disk site.environment path
  match loaded with
  | .error e => stopped (.settings e) []
  | .ok loaded =>
    let level := if a.logLevel.isSome then first else levelOf loaded.server.logLevel
    let site := { site with environment := loaded.environment }
    let log := first.filter loaded.log
    if a.check then check loaded.server level log else serve site a loaded.server level log

/-- Runs the command. Wrong arguments end it with status two. -/
def run (site : Site) (arguments : List String) : Outcome :=
  match read arguments with
  | .error .refused => ⟨.exited 2, []⟩
  | .error .help => ⟨.exited 0, []⟩
  | .ok a => perform site a

end CommandLine

end Switchboard
