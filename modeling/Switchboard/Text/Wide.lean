import Switchboard.Text.Blank

/-!
Texts in units of two or four bytes, with the high or the low byte first.

A character beyond the first plane takes two units of two bytes; half of such a pair alone is no
character.
-/
namespace Switchboard.Text.Wide

/-- The number that some bytes write. -/
def number (highFirst : Bool) (bytes : List UInt8) : Nat :=
  (if highFirst then bytes else bytes.reverse).foldl (fun n b => 256 * n + b.toNat) 0

/-- The numbers that bytes write two by two, if none is left over. -/
def units16? (highFirst : Bool) : List UInt8 → Option (List Nat)
  | [] => some []
  | [_] => none
  | a :: b :: rest => (units16? highFirst rest).map (number highFirst [a, b] :: ·)

/-- The numbers that bytes write four by four, if none is left over. -/
def units32? (highFirst : Bool) : List UInt8 → Option (List Nat)
  | [] => some []
  | a :: b :: c :: d :: rest => (units32? highFirst rest).map (number highFirst [a, b, c, d] :: ·)
  | _ => none

/-- The character of a number, if it has one. -/
def char? (n : Nat) : Option Char := if n.isValidChar then some (Char.ofNat n) else none

/-- Whether a unit is the first half of a pair. -/
def isFirstHalf (n : Nat) : Bool := 0xD800 ≤ n && n < 0xDC00

/-- Whether a unit is the second half of a pair. -/
def isSecondHalf (n : Nat) : Bool := 0xDC00 ≤ n && n < 0xE000

/-- The characters of units of two bytes. -/
def chars16? : List Nat → Option (List Char)
  | [] => some []
  | [n] => (char? n).map fun c => [c]
  | n :: m :: rest =>
    if isFirstHalf n && isSecondHalf m then do
      let c ← char? (0x10000 + (n - 0xD800) * 0x400 + (m - 0xDC00))
      let cs ← chars16? rest
      some (c :: cs)
    else do
      let c ← char? n
      let cs ← chars16? (m :: rest)
      some (c :: cs)

/-- The text of bytes in units of two. -/
def decode16? (highFirst : Bool) (bytes : List UInt8) : Option (List Char) :=
  (units16? highFirst bytes).bind chars16?

/-- The text of bytes in units of four. -/
def decode32? (highFirst : Bool) (bytes : List UInt8) : Option (List Char) :=
  (units32? highFirst bytes).bind fun ns => ns.mapM char?

end Switchboard.Text.Wide
