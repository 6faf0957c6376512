import Switchboard.Text.Blank

/-!
The log of a server: how grave its lines are, which part of the server writes them, and what they say.
Settings say by a word how much is written; a word that is not known means the usual level.
-/
namespace Switchboard

/-- How grave a log line is. -/
inductive Level where
  | debug
  | info
  | warning
  | error
  deriving DecidableEq

namespace Level

/-- The word for a level. -/
def word : Level → String
  | .debug => "DEBUG"
  | .info => "INFO"
  | .warning => "WARNING"
  | .error => "ERROR"

/-- The rank of a level. -/
def rank : Level → Nat
  | .debug => 10
  | .info => 20
  | .warning => 30
  | .error => 40

/-- The words that settings use. -/
def words : List (String × Level) :=
  [("debug", .debug), ("info", .info), ("warn", .warning), ("warning", .warning), ("error", .error)]

/-- The level that a word names, in any case and with blanks around it. No letter outside ASCII has a
small form that occurs in the words. -/
def ofWord (s : String) : Level :=
  (words.lookup (String.ofList (Text.lowerAscii (Text.strip s.toList)))).getD .info

end Level

/-- The parts of a server that write to the log. -/
inductive Source where
  | settings
  | graph
  | handlers
  | server
  | commandLine
  deriving DecidableEq

/-- A line of the log. -/
structure LogLine where
  level : Level
  source : Source
  message : String
  deriving DecidableEq

/-- The lines that a level lets through. -/
def Level.filter (level : Level) (lines : List LogLine) : List LogLine :=
  lines.filter fun line => decide (level.rank ≤ line.level.rank)

end Switchboard
