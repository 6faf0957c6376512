import Switchboard.Tools.Octets

/-!
Scripts of a shell as trees: words with their expansions, and commands made of words, redirections and
other commands.
-/
namespace Switchboard.Tools.Shell

/-- How a redirection opens a file. -/
inductive Opening where
  | read
  | write
  | append
  | both
  deriving DecidableEq

mutual

/-- A part of a word. -/
inductive Part where
  /-- A character. A quoted one stands for itself, whatever it means otherwise. -/
  | char (c : Char) (quoted : Bool)
  /-- A pair of quotes, which makes a word even of nothing. -/
  | quotes
  /-- A parameter, in a form. -/
  | parameter (name : Octets) (form : Form) (quoted : Bool)
  /-- What a script writes. -/
  | output (body : Script) (quoted : Bool)
  /-- The value of an arithmetic expression. -/
  | arithmetic (expression : List Part) (quoted : Bool)

/-- What a reference to a parameter stands for. `orEmpty` says that an empty value is like none. -/
inductive Form where
  | value
  | length
  | otherwise (orEmpty : Bool) (word : List Part)
  | assign (orEmpty : Bool) (word : List Part)
  | demand (orEmpty : Bool) (word : List Part)
  | whenSet (orEmpty : Bool) (word : List Part)
  | trim (atEnd longest : Bool) (pattern : List Part)
  | invalid

/-- A redirection of one of the numbers that files are open under. -/
inductive Redirection where
  | file (number : Nat) (opening : Opening) (name : List Part)
  | copy (number : Nat) (source : List Part)
  | here (number : Nat) (text : List Part)

/-- A command. -/
inductive Command where
  | simple (line : Nat) (assignments : List (Octets × List Part)) (words : List (List Part))
      (redirections : List Redirection)
  | pipe (commands : List Command)
  | negate (command : Command)
  | andThen (first second : Command)
  | orElse (first second : Command)
  | sequence (first second : Command)
  | background (command : Command)
  | group (body : Command)
  | subshell (body : Command)
  | choose (condition body : Command) (otherwise : Option Command)
  | loop (wanted : Bool) (condition body : Command)
  | forEach (line : Nat) (name : Octets) (words : Option (List (List Part))) (body : Command)
  | select (line : Nat) (subject : List Part) (cases : List (List (List Part) × Option Command))
  | define (name : Octets) (body : Command)
  | redirect (body : Command) (redirections : List Redirection)

/-- A script: the commands of its lines, and the complaint about its structure behind them, if there
is one, with its line. -/
inductive Script where
  | mk (commands : List Command) (fault : Option (Nat × String))

end

/-- A word. -/
abbrev Word := List Part

/-- The commands of a script. -/
def Script.commands : Script → List Command
  | .mk commands _ => commands

/-- The complaint about the structure of a script. -/
def Script.fault : Script → Option (Nat × String)
  | .mk _ fault => fault

/-- The characters of a word without expansions, and without quotes if `bare`. -/
def Word.plain? (bare : Bool) : Word → Option Octets
  | [] => some []
  | .char c quoted :: rest => if bare && quoted then none else (Word.plain? bare rest).map (c :: ·)
  | .quotes :: rest => if bare then none else Word.plain? bare rest
  | _ :: _ => none

end Switchboard.Tools.Shell
