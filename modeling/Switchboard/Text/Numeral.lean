import Switchboard.Decimal.Text
import Switchboard.Text.WordClass

/-!
Numbers as people write them into a text: with blanks around them, a sign, single low lines between
digits, and the digits of any script.

`readInt` reads an integer in a base, whose mark (`0x`, `0o`, `0b`) may stand in front of its digits;
`readFloat?` reads a double.
-/
namespace Switchboard.Text.Numeral

/-- Why a text is no integer. -/
inductive Fault where
  | malformed
  | tooLong (digits : Nat)
  deriving DecidableEq

/-- The most digits that an integer may have, unless the base is a power of two. -/
def maxDigits : Nat := 4300

/-- The message for an integer with too many digits. -/
def tooLongMessage (digits : Nat) : String :=
  "Exceeds the limit (4300 digits) for integer string conversion: value has " ++ toString digits
    ++ " digits; use sys.set_int_max_str_digits() to increase the limit"

/-- The text of an integer, unless it has too many digits. -/
def intText? (i : Int) : Option String :=
  if i.natAbs < Nat.pow 10 maxDigits then some (toString i) else none

/-- The message for an integer that has no text. -/
def noTextMessage : String :=
  "Exceeds the limit (4300 digits) for integer string conversion; "
    ++ "use sys.set_int_max_str_digits() to increase the limit"

/-- A blank around a number: a plain one, or a white-space character beyond ASCII. -/
def isOuterBlank (c : Char) : Bool := isPlainBlank c || (127 ≤ c.toNat && isBlank c)

/-- The text of a number without the blanks around it, its digits written as those of ASCII. -/
def core (cs : List Char) : List Char := plainDigits (trim isOuterBlank cs)

/-- The letter behind the zero that marks a base. -/
def markOf? : Nat → Option Char
  | 2 => some 'b'
  | 8 => some 'o'
  | 16 => some 'x'
  | _ => none

/-- What follows the mark of a base, if it stands there; one low line may stand behind it. -/
def dropMark (base : Nat) (cs : List Char) : List Char :=
  match cs with
  | '0' :: letter :: rest =>
    if markOf? base = some letter.toLower then
      match rest with
      | '_' :: digits => digits
      | digits => digits
    else cs
  | _ => cs

/-- The value of a digit in a base. -/
def digit? (base : Nat) (c : Char) : Option Nat := (hexValue? c).filter (· < base)

/-- Digits with single low lines between them, without these. -/
def digits? (base : Nat) (cs : List Char) : Option (List Nat) :=
  let groups := splitOn (· = '_') cs
  if groups.all (!·.isEmpty) then groups.flatten.mapM (digit? base) else none

/-- The integer that a text writes in a base. Too many digits are an error even where the text is
malformed behind them. -/
def readInt (base : Nat) (cs : List Char) : Except Fault Int :=
  let (negative, body) := Decimal.splitSign (core cs)
  let written := dropMark base body
  let run := written.takeWhile fun c => (digit? base c).isSome || c = '_'
  let count := (run.filter (· != '_')).length
  if (markOf? base).isNone && maxDigits < count && (digits? base run).isSome then
    .error (.tooLong count)
  else
    match digits? base written with
    | some digits =>
      let magnitude : Nat := digits.foldl (fun n d => base * n + d) 0
      .ok (if negative then -(magnitude : Int) else magnitude)
    | none => .error .malformed

/-- The double that a text writes. -/
def readFloat? (cs : List Char) : Option Float :=
  (Decimal.ungroup? false (core cs)).bind Decimal.ofText?

end Switchboard.Text.Numeral
