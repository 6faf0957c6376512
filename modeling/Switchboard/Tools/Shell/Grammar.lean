import Switchboard.Tools.Shell.Word

/-!
Reading scripts: commands made of words, pipes, lists, loops and choices.

The reader of commands counts down a fuel with each level of nesting; the readers of pipes and lists
take it as a parameter. A script is read line by line, since the lines in front of a complaint are run.
-/
namespace Switchboard.Tools.Shell

/-- The commands of the shell whose names no function may have. -/
def specialNames : List String :=
  ["break", ":", "continue", ".", "eval", "exec", "exit", "export", "local", "readonly", "return", "set",
    "shift", "times", "trap", "unset"]

/-- The parts of a word that sets a parameter: its name and its value. -/
def assignment? (w : Word) : Option (Octets × Word) :=
  let rec go (read : Octets) : Word → Option (Octets × Word)
    | .char '=' false :: rest =>
      if Octets.isName read.reverse then some (read.reverse, rest) else none
    | .char c false :: rest => if Octets.isNameChar c then go (c :: read) rest else none
    | _ => none
  go [] w

/-- Where a list of commands stands: on a line of its own, in a compound command that needs at least
one command, or in one that may be empty. -/
inductive ListPlace where
  | line
  | filled
  | open
  deriving DecidableEq

namespace Reading

/-- Commands between which bars stand. -/
def pipeline (body : Reading (Option Command)) (command : Reading Command) : Reading Command := do
  let negated ← match ← token body false true with
    | .keyword "!" => do
      putBack (← token body false true)
      pure true
    | t => do
      putBack t
      pure false
  let commands ← repeated (fun (done : List Command) => do
    let done := done ++ [← command]
    match ← token body false false with
    | .pipe =>
      putBack (← token body true true)
      return .inl done
    | t =>
      putBack t
      return .inr done) []
  let c : Command := match commands with
    | [c] => c
    | cs => .pipe cs
  return if negated then .negate c else c

/-- Pipelines of which each but the first depends on what came before. -/
def chain (body : Reading (Option Command)) (command : Reading Command) : Reading Command := do
  repeated (fun (done : Command) => do
    let next (join : Command → Command → Command) : Reading (Command ⊕ Command) := do
      putBack (← token body true true)
      return .inl (join done (← pipeline body command))
    match ← token body false false with
    | .both => next .andThen
    | .either => next .orElse
    | t =>
      putBack t
      return .inr done) (← pipeline body command)

/-- A list of commands, up to a token that ends it. -/
def list (body : Reading (Option Command)) (command : Reading Command) (place : ListPlace) :
    Reading (Option Command) := do
  repeated (fun (done : Option Command) => do
    let t ← token body (place != .line) true
    match t with
    | .newline => return .inr done
    | .finish =>
      putBack t
      return .inr done
    | t =>
      putBack t
      let mayEnd := place = .open || (place = .filled && done.isSome)
      if mayEnd && t.endsList then return .inr done
      let c ← chain body command
      let t ← token body false false
      let c := match t with
        | .ampersand => .background c
        | _ => c
      let all := match done with
        | some before => .sequence before c
        | none => c
      match t with
      | .ampersand | .semicolon => return .inl (some all)
      | .newline =>
        putBack t
        return .inl (some all)
      | .finish =>
        putBack t
        return .inr (some all)
      | t =>
        if place = .line then unexpected t none
        putBack t
        return .inr (some all)) none

/-- A list in a compound command. -/
def filled (body : Reading (Option Command)) (command : Reading Command) : Reading Command := do
  match ← list body command .filled with
  | some c => return c
  | none => return .simple 0 [] [] []

/-- Takes a keyword. -/
def expect (body : Reading (Option Command)) (overLines : Bool) (wanted : Token) : Reading Unit := do
  let t ← token body overLines true
  if t.name != wanted.name then unexpected t (some wanted)

/-- The redirections behind a compound command. -/
def redirected (body : Reading (Option Command)) (c : Command) : Reading Command := do
  let rs ← repeated (fun (rs : List Redirection) => do
    match ← token body false true with
    | .redirect number head => return .inl (rs ++ [← redirection body number head])
    | t =>
      putBack t
      return .inr rs) []
  return if rs.isEmpty then c else .redirect c rs

/-- A simple command under construction. -/
structure Draft where
  assignments : List (Octets × Word)
  words : List Word
  redirections : List Redirection

/-- A simple command, or the definition of a function. -/
def simple (body : Reading (Option Command)) (command : Reading Command) : Reading Command := do
  let line := (← get).line
  repeated (fun (d : Draft) => do
    let finish (t : Token) : Reading (Draft ⊕ Command) := do
      putBack t
      return .inr (.simple line d.assignments d.words d.redirections)
    match ← token body false false with
    | .word w =>
      match (if d.words.isEmpty then assignment? w else none) with
      | some a => return .inl { d with assignments := d.assignments ++ [a] }
      | none => return .inl { d with words := d.words ++ [w] }
    | .redirect number head =>
      return .inl { d with redirections := d.redirections ++ [← redirection body number head] }
    | .opening =>
      match d.words, d.assignments, d.redirections with
      | [w], [], [] =>
        match ← token body false false with
        | .closing => pure ()
        | t => unexpected t (some .closing)
        let name := (Word.plain? false w).getD []
        if !Octets.isName name || String.ofList name ∈ specialNames then fail "Bad function name"
        putBack (← token body true true)
        return .inr (.define name (← command))
      | _, _, _ => finish .opening
    | t => finish t) ⟨[], [], []⟩

/-- The rest of a choice, behind its first word. -/
def choice (body : Reading (Option Command)) (command : Reading Command) :
    (fuel : Nat) → Reading Command
  | 0 => fail "too long"
  | fuel + 1 => do
    let condition ← filled body command
    expect body false (.keyword "then")
    let chosen ← filled body command
    match ← token body false true with
    | .keyword "elif" => return .choose condition chosen (some (← choice body command fuel))
    | .keyword "else" =>
      let otherwise ← filled body command
      expect body false (.keyword "fi")
      return .choose condition chosen (some otherwise)
    | .keyword "fi" => return .choose condition chosen none
    | t => unexpected t (some (.keyword "fi"))

/-- Words up to the end of a line or a semicolon. -/
def wordsOfLine (body : Reading (Option Command)) : Reading (List Word) := do
  repeated (fun (ws : List Word) => do
    match ← token body false false with
    | .word w => return .inl (ws ++ [w])
    | .newline | .semicolon => return .inr ws
    | t => unexpected t none) []

/-- The rest of a loop over words, behind its first word. -/
def overWords (body : Reading (Option Command)) (command : Reading Command) : Reading Command := do
  let line := (← get).line
  let name ← match ← token body false false with
    | .word w =>
      match Word.plain? true w with
      | some name => if Octets.isName name then pure name else fail "Bad for loop variable"
      | none => fail "Bad for loop variable"
    | _ => fail "Bad for loop variable"
  let words ← match ← token body true true with
    | .keyword "in" => some <$> wordsOfLine body
    | .semicolon => pure none
    | t => do
      putBack t
      pure none
  expect body true (.keyword "do")
  let inner ← filled body command
  expect body false (.keyword "done")
  return .forEach line name words inner

/-- The patterns of a case, of which the first token is given. -/
def patterns (body : Reading (Option Command)) (first : Token) : Reading (List Word) := do
  let asWord (t : Token) : Word := match t with
    | .word w => w
    | .keyword k => chars false k.toList
    | _ => []
  let start ← match first with
    | .opening => token body false false
    | t => pure t
  repeated (fun (ws, t) => do
    let ws := ws ++ [asWord t]
    match ← token body false false with
    | .pipe => return .inl (ws, ← token body false false)
    | .closing => return .inr ws
    | t => unexpected t (some .closing)) (([] : List Word), start)

/-- The rest of a selection by patterns, behind its first word. -/
def selection (body : Reading (Option Command)) (command : Reading Command) : Reading Command := do
  let line := (← get).line
  let subject ← match ← token body false false with
    | .word w => pure w
    | t => unexpected t (some (.word []))
  expect body true (.keyword "in")
  repeated (fun (cases : List (List Word × Option Command)) => do
    match ← token body true true with
    | .keyword "esac" => return .inr (.select line subject cases)
    | t =>
      let ws ← patterns body t
      let chosen ← list body command .open
      match ← token body true true with
      | .caseEnd => return .inl (cases ++ [(ws, chosen)])
      | .keyword "esac" => return .inr (.select line subject (cases ++ [(ws, chosen)]))
      | t => unexpected t (some .caseEnd)) []

/-- A command, whose first token may have been put back. -/
def compound (body : Reading (Option Command)) (command : Reading Command) : Reading Command := do
  let closed (c : Command) (wanted : Token) : Reading Command := do
    expect body false wanted
    redirected body c
  let loop (wanted : Bool) : Reading Command := do
    let condition ← filled body command
    expect body false (.keyword "do")
    closed (.loop wanted condition (← filled body command)) (.keyword "done")
  match ← token body false true with
  | .keyword "if" => do redirected body (← choice body command ((← rest).length + 1))
  | .keyword "while" => loop true
  | .keyword "until" => loop false
  | .keyword "for" => do redirected body (← overWords body command)
  | .keyword "case" => do redirected body (← selection body command)
  | .keyword "\x7b" => do closed (.group (← filled body command)) (.keyword "\x7d")
  | .opening => do closed (.subshell (← filled body command)) .closing
  | .word w => do
    putBack (.word w)
    simple body command
  | .redirect number head => do
    putBack (.redirect number head)
    simple body command
  | t => unexpected t none

/-- The readers of commands and of the lists in substitutions, for so many levels of nesting. -/
def readers : (depth : Nat) → Reading Command × Reading (Option Command)
  | 0 => (fail "too deep", fail "too deep")
  | depth + 1 =>
    let (command, body) := readers depth
    (compound body command, list body command .open)

/-- The lines of a script up to its end, or to a complaint about its structure. -/
def lines (readers : Reading Command × Reading (Option Command)) : (fuel : Nat) → Cursor →
    List Command → Script
  | 0, _, done => .mk done.reverse none
  | fuel + 1, cursor, done =>
    match (list readers.2 readers.1 .line).run cursor with
    | .error fault => .mk done.reverse (some fault)
    | .ok (c, next) =>
      let done := c.toList ++ done
      match next.rest, next.held with
      | [], some .finish => .mk done.reverse none
      | _, _ => lines readers fuel { next with held := none } done

end Reading

/-- How deep commands may be nested. -/
def maxNesting : Nat := 200

/-- Reads a script. -/
def Script.read (text : Octets) : Script :=
  Reading.lines (Reading.readers maxNesting) (text.length + 2) ⟨text, 1, 0, none⟩ []

end Switchboard.Tools.Shell
