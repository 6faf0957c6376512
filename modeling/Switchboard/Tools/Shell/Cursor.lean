import Switchboard.Tools.Shell.Script

/-!
Reading a script character by character: the place in the text, the lines counted, and the tokens that
words and marks make. A token may be put back.

Documents that a redirection quotes begin on the line behind it. They are cut out of the text as soon
as their redirection is read, so that the rest of the line goes on without them.
-/
namespace Switchboard.Tools.Shell

/-- What a redirection does, before its target is read. -/
inductive Head where
  | file (opening : Opening)
  | copy
  | here (withoutTabs : Bool)

/-- A token of a script. -/
inductive Token where
  | finish
  | newline
  | semicolon
  | ampersand
  | both
  | either
  | pipe
  | opening
  | closing
  | caseEnd
  | redirect (number : Nat) (head : Head)
  | word (w : Word)
  | keyword (k : String)

/-- The words that structure commands. -/
def keywords : List String :=
  ["!", "case", "do", "done", "elif", "else", "esac", "fi", "for", "if", "in", "then", "until", "while",
    "\x7b", "\x7d"]

namespace Token

/-- How complaints name a token. -/
def name : Token → String
  | .finish => "end of file"
  | .newline => "newline"
  | .semicolon => "\";\""
  | .ampersand => "\"&\""
  | .both => "\"&&\""
  | .either => "\"||\""
  | .pipe => "\"|\""
  | .opening => "\"(\""
  | .closing => "\")\""
  | .caseEnd => "\";;\""
  | .redirect _ _ => "redirection"
  | .word _ => "word"
  | .keyword k => "\"" ++ k ++ "\""

/-- Whether a token may end a list of commands. -/
def endsList : Token → Bool
  | .finish | .closing | .caseEnd => true
  | .keyword k => k ∈ ["do", "done", "elif", "else", "esac", "fi", "then", "\x7d"]
  | _ => false

/-- A word as a keyword, if it is one. -/
def asKeyword (t : Token) : Token :=
  match t with
  | .word w =>
    match Word.plain? true w with
    | some cs =>
      let k := String.ofList cs
      if k ∈ keywords then .keyword k else t
    | none => t
  | t => t

end Token

/-- A place in a script: the text left, the number of the line, the lines of documents cut out of the
text behind this line, and a token that was put back. -/
structure Cursor where
  rest : Octets
  line : Nat
  cut : Nat
  held : Option Token

/-- Reading a part of a script; it may fail with a line and a complaint. -/
abbrev Reading := StateT Cursor (Except (Nat × String))

namespace Reading

/-- Complains about the structure of the script. -/
def fail {α : Type} (why : String) : Reading α := do throw ((← get).line, why)

/-- Complains about a token, and perhaps names the one that should stand there. -/
def unexpected {α : Type} (t : Token) (wanted : Option Token) : Reading α :=
  fail (match wanted with
    | some w => t.name ++ " unexpected (expecting " ++ w.name ++ ")"
    | none => t.name ++ " unexpected")

/-- The text left. -/
def rest : Reading Octets := return (← get).rest

/-- Passes over so many characters. -/
def drop : (count : Nat) → Reading Unit
  | 0 => pure ()
  | count + 1 => do
    modify fun c => match c.rest with
      | '\n' :: rest => { c with rest, line := c.line + 1 + c.cut, cut := 0 }
      | _ :: rest => { c with rest }
      | [] => c
    drop count

/-- Puts a token back. -/
def putBack (t : Token) : Reading Unit := modify fun c => { c with held := some t }

/-- Repeats a step until it says that it is done. The text bounds the number of steps. -/
def repeated {α β : Type} (step : α → Reading (α ⊕ β)) (a : α) : Reading β := do
  let rec go : (fuel : Nat) → α → Reading β
    | 0, _ => fail "too long"
    | fuel + 1, a => do
      match ← step a with
      | .inl a => go fuel a
      | .inr b => return b
  go ((← rest).length + 8) a

end Reading

/-- The number of characters in front that are blanks, comments, or line feeds behind a backslash. -/
def gapLength (inComment : Bool) : Octets → Nat
  | [] => 0
  | '\\' :: '\n' :: rest => if inComment then 1 + gapLength true ('\n' :: rest) else 2 + gapLength false rest
  | c :: rest =>
    if inComment then if c = '\n' then 0 else 1 + gapLength true rest
    else if c = ' ' || c = '\t' then 1 + gapLength false rest
    else if c = '#' then 1 + gapLength true rest
    else 0

end Switchboard.Tools.Shell
