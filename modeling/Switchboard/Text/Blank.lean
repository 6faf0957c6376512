/-!
Blank characters, and the cutting of texts that rests on them: stripping both ends, splitting into
words or at a separator, testing how a text starts and ends. Texts are lists of characters here.
-/
namespace Switchboard.Text

/-- The white-space characters of Unicode, with the four separators U+001C to U+001F. -/
def isBlank (c : Char) : Bool :=
  let n := c.toNat
  (0x09 ≤ n && n ≤ 0x0D) || (0x1C ≤ n && n ≤ 0x20) || n == 0x85 || n == 0xA0 || n == 0x1680
    || (0x2000 ≤ n && n ≤ 0x200A) || n == 0x2028 || n == 0x2029 || n == 0x202F || n == 0x205F
    || n == 0x3000

/-- The white-space property of Unicode proper, without U+001C to U+001F. -/
def isWhiteSpace (c : Char) : Bool :=
  isBlank c && !(0x1C ≤ c.toNat && c.toNat ≤ 0x1F)

/-- Drops from both ends what `p` holds of. -/
def trim (p : Char → Bool) (cs : List Char) : List Char :=
  (((cs.dropWhile p).reverse).dropWhile p).reverse

/-- Drops the blanks at the start. -/
def stripStart (cs : List Char) : List Char := cs.dropWhile isBlank

/-- Drops the blanks at the end. -/
def stripEnd (cs : List Char) : List Char := (cs.reverse.dropWhile isBlank).reverse

/-- Drops the blanks at both ends. -/
def strip (cs : List Char) : List Char := stripEnd (stripStart cs)

/-- `strip` on strings. -/
def stripped (s : String) : String := String.ofList (strip s.toList)

/-- Drops the blanks at the end of a string. -/
def strippedEnd (s : String) : String := String.ofList (stripEnd s.toList)

/-- The pieces of `cs` between separators, empty pieces included; there is always at least one. -/
def splitOn (isSep : Char → Bool) : List Char → List (List Char)
  | [] => [[]]
  | c :: rest =>
    match splitOn isSep rest with
    | [] => [[]]
    | piece :: pieces =>
      if isSep c then [] :: piece :: pieces else (c :: piece) :: pieces

/-- The maximal blank-free pieces of a text. -/
def words (cs : List Char) : List (List Char) :=
  (splitOn isBlank cs).filter (fun piece => !piece.isEmpty)

/-- Texts side by side with `sep` between neighbours. -/
def join (sep : String) : List String → String
  | [] => ""
  | [s] => s
  | s :: rest => s ++ sep ++ join sep rest

/-- What follows `start` in a text that begins with it. -/
def dropPrefix? : (start : List Char) → List Char → Option (List Char)
  | [], cs => some cs
  | p :: ps, c :: cs => if p = c then dropPrefix? ps cs else none
  | _ :: _, [] => none

/-- Whether a text begins with `start`. -/
def startsWith (start cs : List Char) : Bool := (dropPrefix? start cs).isSome

/-- Whether a text ends with `tail`. -/
def endsWith (tail cs : List Char) : Bool := startsWith tail.reverse cs.reverse

/-- Whether `part` occurs in a text. -/
def contains (part : List Char) : List Char → Bool
  | [] => part.isEmpty
  | c :: cs => startsWith part (c :: cs) || contains part cs

/-- One of the ten ASCII digits. -/
def isDigit (c : Char) : Bool := '0' ≤ c && c ≤ '9'

/-- An ASCII letter. -/
def isLetter (c : Char) : Bool := ('a' ≤ c && c ≤ 'z') || ('A' ≤ c && c ≤ 'Z')

/-- The value of an ASCII digit. -/
def digitValue (c : Char) : Nat := c.toNat - '0'.toNat

/-- The number that a run of ASCII digits writes. -/
def digitsValue (cs : List Char) : Nat := cs.foldl (fun n c => 10 * n + digitValue c) 0

/-- The value of a hexadecimal digit, of either case. -/
def hexValue? (c : Char) : Option Nat :=
  if isDigit c then some (digitValue c)
  else if 'a' ≤ c && c ≤ 'f' then some (c.toNat - 'a'.toNat + 10)
  else if 'A' ≤ c && c ≤ 'F' then some (c.toNat - 'A'.toNat + 10)
  else none

/-- The lower-case hexadecimal digit of a value below sixteen. -/
def hexDigit (n : Nat) : Char :=
  if n < 10 then Char.ofNat ('0'.toNat + n) else Char.ofNat ('a'.toNat + (n - 10))

/-- The last `width` hexadecimal digits of a number, in lower case. -/
def hex : (width : Nat) → Nat → List Char
  | 0, _ => []
  | width + 1, n => hex width (n / 16) ++ [hexDigit (n % 16)]

/-- ASCII letters to lower case. -/
def lowerAscii (cs : List Char) : List Char := cs.map Char.toLower

end Switchboard.Text
