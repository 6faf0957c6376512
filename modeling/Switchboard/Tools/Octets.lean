import Switchboard.Text.Utf8

/-!
Texts as tools see them: rows of bytes, in no encoding. Each byte is written as the character of its
number, so that what is said of characters below U+0080 can be said of bytes. What running a command
comes to is its status, the rows it writes to its two outputs, and how long it takes.
-/
namespace Switchboard.Tools

/-- A row of bytes; its characters lie below U+0100. -/
abbrev Octets := List Char

namespace Octets

/-- The row of some bytes. -/
def ofBytes (data : List UInt8) : Octets := data.map fun b => Char.ofNat b.toNat

/-- The bytes of a row. -/
def bytes (o : Octets) : List UInt8 := o.map fun c => UInt8.ofNat c.toNat

/-- The bytes that a text has in UTF-8. -/
def ofText (s : String) : Octets := ofBytes (Text.Utf8.encode s)

/-- The digits of a number. -/
def ofInt (n : Int) : Octets := (toString n).toList

/-- Rows with another one between them. -/
def join (between : Octets) : List Octets → Octets
  | [] => []
  | [o] => o
  | o :: rest => o ++ between ++ join between rest

/-- The lines of a row, each without the line feed that ends it. -/
def lines (o : Octets) : List Octets :=
  let parts := Text.splitOn (· = '\n') o
  if parts.getLast? = some [] then parts.dropLast else parts

/-- A blank of the basic set: a space, or one of the controls from tab to carriage return. -/
def isSpace (c : Char) : Bool := c = ' ' || ('\t' ≤ c && c ≤ '\r')

/-- A letter, a digit or a low line. -/
def isNameChar (c : Char) : Bool := Text.isLetter c || Text.isDigit c || c = '_'

/-- Whether a row stands at or before another one in the order of bytes. -/
def isAtMost : Octets → Octets → Bool
  | [], _ => true
  | _ :: _, [] => false
  | a :: as, b :: bs => a < b || (a = b && isAtMost as bs)

/-- Whether a row is a name: letters, digits and low lines that no digit leads. -/
def isName : Octets → Bool
  | [] => false
  | c :: rest => !Text.isDigit c && (c :: rest).all isNameChar

end Octets

/-- The outcome of a command. -/
structure Outcome where
  status : Int
  output : Octets
  complaints : Octets
  seconds : Float

namespace Outcome

/-- A command that writes something and succeeds. -/
def success (output : Octets) : Outcome := ⟨0, output, [], 0.0⟩

/-- A command that complains on a line of its own. -/
def failure (status : Int) (complaint : Octets) : Outcome := ⟨status, [], complaint ++ ['\n'], 0.0⟩

/-- A command that writes nothing. -/
def silent (status : Int) : Outcome := ⟨status, [], [], 0.0⟩

end Outcome

end Switchboard.Tools
