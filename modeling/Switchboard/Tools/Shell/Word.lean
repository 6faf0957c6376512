import Switchboard.Tools.Shell.Cursor

/-!
Reading words, with their quotes and expansions, and the other tokens of a script.

What stands in `$(…)` is a script again; its reader is a parameter here.
-/
namespace Switchboard.Tools.Shell

/-- Where the characters of a word stand. -/
inductive Place where
  | bare
  | braces
  | quotes
  | quotedBraces
  | document
  | arithmetic (depth : Nat)
  deriving DecidableEq

namespace Place

/-- Whether characters stand for themselves here. -/
def isQuoted : Place → Bool
  | .bare | .braces => false
  | _ => true

/-- Whether a backslash takes away the meaning of a character here; otherwise it stays. -/
def escapes (p : Place) (c : Char) : Bool :=
  if !p.isQuoted then true
  else c ∈ ['\\', '\x60', '$'] || (c = '"' && p != .document) || (c = '}' && p = .quotedBraces)

/-- The complaint where the text ends too early. -/
def unfinished? : Place → Option String
  | .bare | .document => none
  | .braces => some "Missing '\x7d'"
  | .quotes | .quotedBraces => some "Unterminated quoted string"
  | .arithmetic _ => some "Missing '))'"

end Place

/-- A character that ends a bare word. -/
def endsWord (c : Char) : Bool := c ∈ [' ', '\t', '\n', '&', '|', ';', '<', '>', '(', ')']

/-- A parameter that is named by one mark. -/
def isSpecial (c : Char) : Bool := c ∈ ['@', '*', '#', '?', '-', '$', '!'] || Text.isDigit c

/-- Characters as parts of a word. -/
def chars (quoted : Bool) (cs : Octets) : Word := cs.map fun c => .char c quoted

namespace Reading

/-- The text up to a quote, which is passed over too. -/
def single : Reading Word := do
  let text := (← rest).takeWhile (· != '\x27')
  if text.length = (← rest).length then
    drop text.length
    fail "Unterminated quoted string"
  drop (text.length + 1)
  return .quotes :: chars true text

/-- The text of a script in backquotes, with backslashes removed in front of marks. -/
def backquoted (quoted : Bool) : (passed : Nat) → Octets → Option (Octets × Nat)
  | _, [] => none
  | passed + 1, _ :: rest => backquoted quoted passed rest
  | 0, '\x60' :: _ => some ([], 1)
  | 0, '\\' :: c :: rest =>
    let keeps := !(c ∈ ['\\', '\x60', '$'] || (quoted && c = '"') || c = '\n')
    let kept : Octets := if keeps then ['\\', c] else if c = '\n' then [] else [c]
    (backquoted quoted 1 (c :: rest)).map fun (cs, n) => (kept ++ cs, n + 2)
  | 0, c :: rest => (backquoted quoted 0 rest).map fun (cs, n) => (c :: cs, n + 1)

/-- Reads another text in place of the rest of this one. -/
def inside {α : Type} (text : Octets) (reading : Reading α) : Reading α := do
  let outer ← get
  set { outer with rest := text, cut := 0, held := none }
  let a ← reading
  set outer
  return a

/-- The script in backquotes, behind the first of them. Whatever follows a complete list of commands
is passed over. -/
def backquotes (body : Reading (Option Command)) (quoted : Bool) : Reading Part := do
  match backquoted quoted 0 (← rest) with
  | none =>
    drop (← rest).length
    fail "EOF in backquote substitution"
  | some (text, count) =>
    let command ← inside text body
    drop count
    return .output (.mk command.toList none) quoted

/-- The form of a parameter that a mark behind its name asks for. -/
def formOf (mark : Char) (orEmpty : Bool) (word : Word) : Form :=
  match mark with
  | '-' => .otherwise orEmpty word
  | '+' => .whenSet orEmpty word
  | '?' => .demand orEmpty word
  | '=' => .assign orEmpty word
  | _ => .value

/-- The name of a parameter in braces, and whether its length is asked for; no name if there is
none. -/
def parameterName : Reading (Option Octets × Bool) := do
  let cs ← rest
  let named (cs : Octets) : Octets :=
    if (cs.head?.map Text.isDigit).getD false then cs.takeWhile Text.isDigit
    else cs.takeWhile Octets.isNameChar
  match cs with
  | '#' :: more =>
    let name := named more
    match more with
    | c :: '}' :: _ =>
      if name.isEmpty && c != '}' then
        drop 2
        return (if isSpecial c then some [c] else none, true)
    | _ => pure ()
    if name.isEmpty then
      drop 1
      return (some ['#'], false)
    else
      drop (name.length + 1)
      return (some name, true)
  | c :: _ =>
    let name := named cs
    if !name.isEmpty then
      drop name.length
      return (some name, false)
    else if c != '}' then
      drop 1
      return (if isSpecial c then some [c] else none, false)
    else return (none, false)
  | [] => return (none, false)

/-- A parameter in braces, behind the first brace. -/
def braced (parts : Place → Reading Word) (quoted : Bool) : Reading Part := do
  let inner : Place := if quoted then .quotedBraces else .braces
  let (name?, wantsLength) ← parameterName
  let name := name?.getD []
  let invalid : Reading Part := do
    let _ ← parts inner
    return .parameter name .invalid quoted
  if name?.isNone then invalid
  else if wantsLength then
    match ← rest with
    | '}' :: _ =>
      drop 1
      return .parameter name .length quoted
    | _ => invalid
  else
    match ← rest with
    | '}' :: _ =>
      drop 1
      return .parameter name .value quoted
    | ':' :: '}' :: _ =>
      drop 2
      return .parameter name .value quoted
    | ':' :: c :: _ =>
      drop 1
      if c ∈ ['-', '+', '?', '='] then
        drop 1
        return .parameter name (formOf c true (← parts inner)) quoted
      else invalid
    | c :: more =>
      if c ∈ ['-', '+', '?', '='] then
        drop 1
        return .parameter name (formOf c false (← parts inner)) quoted
      else if c ∈ ['%', '#'] then
        let longest := more.head? = some c
        drop (if longest then 2 else 1)
        return .parameter name (.trim (c = '%') longest (← parts .braces)) quoted
      else invalid
    | [] => invalid

/-- What a dollar sign begins, behind it. -/
def dollar (body : Reading (Option Command)) (parts : Place → Reading Word) (quoted : Bool) :
    Reading Part := do
  match ← rest with
  | '(' :: '(' :: _ =>
    drop 2
    return .arithmetic (← parts (.arithmetic 0)) quoted
  | '(' :: _ =>
    drop 1
    let command ← body
    match (← get).held with
    | some .closing =>
      modify fun c => { c with held := none }
      return .output (.mk command.toList none) quoted
    | some t => unexpected t (some .closing)
    | none => unexpected .finish (some .closing)
  | '{' :: _ =>
    drop 1
    braced parts quoted
  | c :: more =>
    if isSpecial c then
      drop 1
      return .parameter [c] .value quoted
    else if Octets.isNameChar c then
      let name := (c :: more).takeWhile Octets.isNameChar
      drop name.length
      return .parameter name .value quoted
    else return .char '$' quoted
  | [] => return .char '$' quoted

/-- The parts of a word in a place, up to what ends it there. -/
def parts (body : Reading (Option Command)) : (fuel : Nat) → Place → Reading Word
  | 0, _ => fail "too long"
  | fuel + 1, place => do
    let parts := parts body fuel
    let followed (front : Word) : Reading Word := return front ++ (← parts place)
    let quoted := place.isQuoted
    match (← rest), place with
    | [], _ =>
      match place.unfinished? with
      | some why => fail why
      | none => return []
    | '}' :: _, .braces | '}' :: _, .quotedBraces | '"' :: _, .quotes =>
      drop 1
      return []
    | '(' :: _, .arithmetic depth =>
      drop 1
      return .char '(' true :: (← parts (.arithmetic (depth + 1)))
    | ')' :: _, .arithmetic (depth + 1) =>
      drop 1
      return .char ')' true :: (← parts (.arithmetic depth))
    | ')' :: ')' :: _, .arithmetic 0 =>
      drop 2
      return []
    | c :: more, place =>
      if place = .bare && endsWord c then return []
      drop 1
      match c with
      | '\\' =>
        match more with
        | [] => followed [.char '\\' true]
        | '\n' :: _ =>
          drop 1
          parts place
        | d :: _ =>
          drop 1
          followed (if place.escapes d then [.char d true]
            else [.char '\\' true, .char d true])
      | '\x27' => if quoted then followed [.char c true] else followed (← single)
      | '"' =>
        if place = .document || (place matches .arithmetic _) then followed [.char c true]
        else followed (.quotes :: (← parts .quotes))
      | '$' => followed [← dollar body parts quoted]
      | '\x60' => followed [← backquotes body quoted]
      | c => followed [.char c quoted]

/-- The parts of a word in a place. -/
def partsIn (body : Reading (Option Command)) (place : Place) : Reading Word := do
  parts body (2 * (← rest).length + 8) place

/-! ### Tokens -/

/-- The mark in front of a text, with its length. -/
def mark? : Octets → Option (Token × Nat)
  | [] => some (.finish, 0)
  | '\n' :: _ => some (.newline, 1)
  | '&' :: '&' :: _ => some (.both, 2)
  | '&' :: _ => some (.ampersand, 1)
  | '|' :: '|' :: _ => some (.either, 2)
  | '|' :: _ => some (.pipe, 1)
  | ';' :: ';' :: _ => some (.caseEnd, 2)
  | ';' :: _ => some (.semicolon, 1)
  | '(' :: _ => some (.opening, 1)
  | ')' :: _ => some (.closing, 1)
  | _ => none

/-- The redirection in front of a text, with its length; `number` is the digit in front of it. -/
def head? (number : Option Nat) : Octets → Option (Token × Nat)
  | '>' :: '>' :: _ => some (.redirect (number.getD 1) (.file .append), 2)
  | '>' :: '|' :: _ => some (.redirect (number.getD 1) (.file .write), 2)
  | '>' :: '&' :: _ => some (.redirect (number.getD 1) .copy, 2)
  | '>' :: _ => some (.redirect (number.getD 1) (.file .write), 1)
  | '<' :: '<' :: '-' :: _ => some (.redirect (number.getD 0) (.here true), 3)
  | '<' :: '<' :: _ => some (.redirect (number.getD 0) (.here false), 2)
  | '<' :: '&' :: _ => some (.redirect (number.getD 0) .copy, 2)
  | '<' :: '>' :: _ => some (.redirect (number.getD 0) (.file .both), 2)
  | '<' :: _ => some (.redirect (number.getD 0) (.file .read), 1)
  | _ => none

/-- The next token, as it is written. -/
def scan (body : Reading (Option Command)) : Reading Token := do
  match (← get).held with
  | some t =>
    modify fun c => { c with held := none }
    return t
  | none =>
    drop (gapLength false (← rest))
    let cs ← rest
    let numbered := match cs with
      | c :: more =>
        if Text.isDigit c then (head? (some (Text.digitValue c)) more).map fun (t, n) => (t, n + 1)
        else none
      | [] => none
    match mark? cs, numbered, head? none cs with
    | some (t, count), _, _ | none, some (t, count), _ | none, none, some (t, count) =>
      drop count
      return t
    | none, none, none => return .word (← partsIn body .bare)

/-- The next token behind line feeds, if those are to be passed over; a keyword counts as one where
it may stand. -/
def token (body : Reading (Option Command)) (overLines withKeywords : Bool) : Reading Token := do
  let t ← repeated (fun () => do
    match ← scan body with
    | .newline => return if overLines then .inl () else .inr .newline
    | t => return .inr t) ()
  return if withKeywords then t.asKeyword else t

/-! ### Redirections -/

/-- The lines of a document up to the line that ends it, the number of lines taken, and the text
behind them. -/
def documentLines (withoutTabs : Bool) (delimiter : Octets) : (fuel : Nat) → Octets →
    Octets × Nat × Octets
  | 0, cs => ([], 0, cs)
  | _, [] => ([], 0, [])
  | fuel + 1, cs =>
    let line := cs.takeWhile (· != '\n')
    let shown := if withoutTabs then line.dropWhile (· = '\t') else line
    let after := cs.drop (line.length + 1)
    if shown = delimiter then ([], 1, after)
    else
      let (text, count, rest) := documentLines withoutTabs delimiter fuel after
      let ended := if line.length < cs.length then shown ++ ['\n'] else shown
      (ended ++ text, count + 1, rest)

/-- Cuts the document that begins on the next line out of the text. -/
def document (body : Reading (Option Command)) (withoutTabs : Bool) (delimiter : Word) :
    Reading Word := do
  let isQuoted := (Word.plain? true delimiter).isNone
  let name := (Word.plain? false delimiter).getD []
  let cs ← rest
  let line := cs.takeWhile (· != '\n')
  let (text, count, after) :=
    documentLines withoutTabs name (cs.length + 1) (cs.drop (line.length + 1))
  modify fun c => { c with rest := line ++ '\n' :: after, cut := c.cut + count }
  if isQuoted then return chars true text
  else inside text (partsIn body .document)

/-- The redirection that a token begins. -/
def redirection (body : Reading (Option Command)) (number : Nat) (head : Head) :
    Reading Redirection := do
  match ← scan body with
  | .word w =>
    match head with
    | .file opening => return .file number opening w
    | .copy => return .copy number w
    | .here withoutTabs => return .here number (← document body withoutTabs w)
  | t => unexpected t none

end Reading

end Switchboard.Tools.Shell
