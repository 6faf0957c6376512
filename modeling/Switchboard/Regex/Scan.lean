import Switchboard.Regex.Fault
import Switchboard.Regex.Pattern

/-!
What is known while an expression is read.

An expression is read token by token; a backslash and the character behind it are one token. A
backslash at the very end belongs to no token: it is found as soon as the token in front of it is
passed.
-/
namespace Switchboard.Regex

/-- A character of an expression, or a backslash with the character behind it. -/
inductive Token where
  | plain (c : Char)
  | escaped (c : Char)
  deriving DecidableEq

namespace Token

/-- The characters of a token. -/
def chars : Token → List Char
  | .plain c => [c]
  | .escaped c => ['\\', c]

/-- The text of a token. -/
def text (t : Token) : String := String.ofList t.chars

/-- The number of its characters. -/
def length (t : Token) : Nat := t.chars.length

/-- Whether `p` holds of a character that no backslash stands before. -/
def isPlain (p : Char → Bool) : Token → Bool
  | .plain c => p c
  | .escaped _ => false

/-- The tokens of an expression, and whether a lone backslash ends it. -/
def ofExpression : List Char → List Token × Bool
  | [] => ([], false)
  | ['\\'] => ([], true)
  | '\\' :: c :: rest => let (ts, dangling) := ofExpression rest; (.escaped c :: ts, dangling)
  | c :: rest => let (ts, dangling) := ofExpression rest; (.plain c :: ts, dangling)

end Token

/-- The switches that change what characters of an expression mean. -/
structure Switches where
  fold : Bool
  multiline : Bool
  dotAll : Bool
  verbose : Bool
  ascii : Bool
  unicode : Bool
  template : Bool

namespace Switches

/-- No switch is on. -/
def off : Switches := ⟨false, false, false, false, false, false, false⟩

/-- Which characters count as the same letter. -/
def casing (s : Switches) : Casing :=
  if s.fold then if s.ascii then .ascii else .full else .exact

/-- Turns the switch with a letter on or off. -/
def turn (on : Bool) (s : Switches) : Char → Switches
  | 'i' => { s with fold := on }
  | 'm' => { s with multiline := on }
  | 's' => { s with dotAll := on }
  | 'x' => { s with verbose := on }
  | 'a' => { s with ascii := on }
  | 'u' => { s with unicode := on }
  | 't' => { s with template := on }
  | _ => s

/-- The switches inside of a group that turns some on and some off. One for the alphabet replaces
that for the other. -/
def within (s : Switches) (on off : List Char) : Switches :=
  let s := if on.contains 'u' then { s with ascii := false } else s
  off.foldl (turn false) (on.foldl (turn true) s)

/-- Whether a letter names a switch. -/
def isLetter (c : Char) : Bool := c ∈ ['i', 'L', 'm', 's', 'x', 'a', 't', 'u']

end Switches

/-- What is known while an expression is read: the tokens left and the characters passed, the number
of groups opened, those closed with their widths, the names of groups, the groups that conditions
refer to with the places where they do, the number of groups before the look behind that is being
read, and the switches for the whole expression. -/
structure Scan where
  expression : List Char
  rest : List Token
  dangling : Bool
  position : Nat
  groups : Nat
  widths : List (Nat × Width)
  names : List (String × Nat)
  conditions : List (Nat × Nat)
  behindFrom : Option Nat
  switches : Switches

/-- The state before the first token. -/
def Scan.start (expression : List Char) : Scan :=
  let (rest, dangling) := Token.ofExpression expression
  ⟨expression, rest, dangling, 0, 0, [], [], [], none, .off⟩

/-- Reading changes the scan or meets a fault. -/
abbrev Reading := StateT Scan (Except Fault)

/-- A complaint about a place some characters back. -/
def complain {α : Type} (complaint : Complaint) (back : Nat) : Reading α := do
  let s ← get
  throw (.malformed complaint (some (.behind s.expression (s.position - back))))

/-- A complaint about a place. -/
def complainAt {α : Type} (complaint : Complaint) (position : Nat) : Reading α := do
  throw (.malformed complaint (some (.behind (← get).expression position)))

/-- The number of characters passed. -/
def position : Reading Nat := do return (← get).position

/-- Complains about a lone backslash if it comes next. -/
def refuseDangling : Reading Unit := do
  let s ← get
  if s.rest.isEmpty && s.dangling then
    complainAt .danglingBackslash (s.expression.length - 1)

/-- The next token, if there is one. -/
def peek : Reading (Option Token) := do return (← get).rest.head?

/-- Passes a token and gives it, if there is one. -/
def take : Reading (Option Token) := do
  let s ← get
  match s.rest with
  | [] => return none
  | t :: rest =>
    set { s with rest := rest, position := s.position + t.length }
    refuseDangling
    return some t

/-- Passes a character if it comes next. -/
def accept (c : Char) : Reading Bool := do
  if (← peek) = some (.plain c) then
    let _ ← take
    return true
  else return false

/-- Passes at most `limit` characters that `p` holds of, and gives them. -/
def takeSome (p : Char → Bool) : (limit : Nat) → Reading (List Char)
  | 0 => return []
  | limit + 1 => do
    match ← peek with
    | some (.plain c) =>
      if p c then
        let _ ← take
        return c :: (← takeSome p limit)
      else return []
    | _ => return []

/-- The characters before a closing one, which is passed; there must be at least one. `what` is what
they make up, and `taken` holds those passed, latest first. -/
def takeUntil (closing : Char) (what : String) : (fuel : Nat) → (taken : List Char) →
    Reading (List Char)
  | 0, taken => return taken.reverse
  | fuel + 1, taken => do
    match ← take with
    | none =>
      if taken.isEmpty then complain (.absent what) 0
      else complain (.unterminatedName closing) taken.length
    | some t =>
      if t = .plain closing then
        if taken.isEmpty then complain (.absent what) 1 else return taken.reverse
      else takeUntil closing what fuel (t.chars.reverse ++ taken)

/-- The characters before a closing one. -/
def untilClosing (closing : Char) (what : String) : Reading (List Char) := do
  takeUntil closing what ((← get).rest.length + 1) []

/-- A group that may be referred to: it is closed, and inside of a look behind it lies before that. -/
def demandOutside (index : Nat) : Reading Unit := do
  let s ← get
  match s.behindFrom with
  | none => pure ()
  | some before =>
    if (s.widths.lookup index).isNone then complain .openGroup 0
    if before < index then complain .groupOfSameLookBehind 0

/-- Opens a group, which may have a name, and gives its number. -/
def openGroup (name : Option (List Char)) : Reading Nat := do
  let index := (← get).groups + 1
  modify fun s => { s with groups := index }
  match name with
  | none => pure ()
  | some cs =>
    let name := String.ofList cs
    match (← get).names.lookup name with
    | some earlier => complain (.redefinedGroup name index earlier) (cs.length + 1)
    | none => modify fun s => { s with names := (name, index) :: s.names }
  return index

/-- The width of a closed group. -/
def Scan.groupWidth (s : Scan) (index : Nat) : Width := (s.widths.lookup index).getD ⟨0, none⟩

end Switchboard.Regex
