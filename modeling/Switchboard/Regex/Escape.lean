import Switchboard.Regex.Scan
import Switchboard.Text.CharName

/-!
What a backslash and the characters behind it mean in an expression.
-/
namespace Switchboard.Regex

/-- An octal digit. -/
def isOctal (c : Char) : Bool := '0' ≤ c && c ≤ '7'

/-- The number that digits write in a base. -/
def number (base : Nat) (digits : List Char) : Nat :=
  digits.foldl (fun n c => base * n + (Text.hexValue? c).getD 0) 0

/-- The characters that letters behind a backslash stand for. -/
def controlLetter? (c : Char) : Option Char :=
  [('a', '\x07'), ('f', '\x0c'), ('n', '\n'), ('r', '\r'), ('t', '\t'), ('v', '\x0b')].lookup c

/-- The class that a letter behind a backslash names; a capital names the rest. -/
def classLetter? (c : Char) : Option (CharClass × Bool) :=
  [('d', (.digit, false)), ('D', (.digit, true)), ('s', (.space, false)), ('S', (.space, true)),
    ('w', (.word, false)), ('W', (.word, true))].lookup c

/-- A complaint about an escape that ends here. -/
def refuseEscape {α : Type} (complaint : String → Complaint) (escape : List Char) : Reading α :=
  complain (complaint (String.ofList escape)) escape.length

/-- The number of the character that exactly `count` hexadecimal digits behind a letter write. -/
def hexEscape (letter : Char) (count : Nat) : Reading Nat := do
  let digits ← takeSome (fun c => (Text.hexValue? c).isSome) count
  let escape := '\\' :: letter :: digits
  if digits.length != count then refuseEscape .incompleteEscape escape
  let n := number 16 digits
  if n < 0x110000 then return n else refuseEscape .badEscape escape

/-- The number of the character that octal digits write. -/
def octalEscape (digits : List Char) : Reading Nat := do
  let n := number 8 digits
  if n ≤ 0o377 then return n else refuseEscape .octalTooLarge ('\\' :: digits)

/-- The number of the character that is called by its name. -/
def namedEscape : Reading Nat := do
  if !(← accept '{') then complain (.absent "\x7b") 0
  let name ← untilClosing '}' "character name"
  match Text.charNamed? name with
  | some n => return n
  | none => complain (.unnamedCharacter (String.ofList name)) (name.length + 4)

/-- The number of the character that an escape means which is alike inside and outside of sets.
Letters and digits do not stand for themselves behind a backslash. -/
def commonEscape (c : Char) : Reading Nat := do
  match controlLetter? c with
  | some d => return d.toNat
  | none =>
    if c = 'x' then hexEscape c 2
    else if c = 'u' then hexEscape c 4
    else if c = 'U' then hexEscape c 8
    else if c = 'N' then namedEscape
    else if Text.isLetter c || Text.isDigit c then refuseEscape .badEscape ['\\', c]
    else return c.toNat

/-- The group that digits behind a backslash refer to. -/
def backReference (switches : Switches) (digits : List Char) : Reading Pattern := do
  let index := Text.digitsValue digits
  let s ← get
  if s.groups < index then complain (.noSuchGroup index) digits.length
  if (s.widths.lookup index).isNone then complain .openGroup (digits.length + 1)
  demandOutside index
  return .same index switches.casing

/-- What a digit behind a backslash means, the first not being zero: three octal digits are a
character, others the number of a group. -/
def digitEscape (switches : Switches) (c : Char) : Reading Pattern := do
  match ← takeSome Text.isDigit 1 with
  | [d] =>
    let third ← if isOctal c && isOctal d then takeSome isOctal 1 else pure []
    match third with
    | [e] => return .char (← octalEscape [c, d, e]) switches.casing
    | _ => backReference switches [c, d]
  | _ => backReference switches [c]

/-- What stands behind a backslash outside of sets. -/
def readEscape (switches : Switches) (c : Char) : Reading Pattern := do
  match classLetter? c with
  | some (cls, negated) => return .set false [.named cls negated switches.ascii] .exact
  | none =>
    if c = 'A' then return .anchor .textStart
    else if c = 'Z' then return .anchor .textEnd
    else if c = 'b' || c = 'B' then return .anchor (.boundary (c = 'B') switches.ascii)
    else if c = '0' then return .char (number 8 (← takeSome isOctal 2)) switches.casing
    else if Text.isDigit c then digitEscape switches c
    else return .char (← commonEscape c) switches.casing

/-- What stands behind a backslash in a set: the number of a character, or a class. -/
def readMemberEscape (switches : Switches) (c : Char) : Reading (Nat ⊕ Element) := do
  match classLetter? c with
  | some (cls, negated) => return .inr (.named cls negated switches.ascii)
  | none =>
    if c = 'b' then return .inl 8
    else if isOctal c then return .inl (← octalEscape (c :: (← takeSome isOctal 2)))
    else return .inl (← commonEscape c)

end Switchboard.Regex
