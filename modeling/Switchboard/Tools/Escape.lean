import Switchboard.Tools.Octets

/-!
Backslash escapes in what `echo` and `printf` write. Octal and hexadecimal escapes give single bytes,
escapes of four or eight digits give characters, and `\c` ends the output.
-/
namespace Switchboard.Tools

/-- Which escapes count. Octal digits may have a zero in front of their three; the end of the output,
hexadecimal escapes and those of characters may be unknown, and an escaped double quote may stand for
itself. -/
structure Escapes where
  longOctal : Bool
  ending : Bool
  hexadecimal : Bool
  characters : Bool
  quote : Bool

/-- What a text is made of. -/
inductive Piece where
  | text (data : Octets)
  | stop
  | broken (why : String)
  deriving DecidableEq

/-- An octal digit. -/
def isOctal (c : Char) : Bool := '0' ≤ c && c ≤ '7'

/-- The byte that a letter behind a backslash stands for. -/
def letterByte? : Char → Option Char
  | 'a' => some '\x07'
  | 'b' => some '\x08'
  | 'e' => some '\x1b'
  | 'f' => some '\x0c'
  | 'n' => some '\n'
  | 'r' => some '\r'
  | 't' => some '\t'
  | 'v' => some '\x0b'
  | '\\' => some '\\'
  | _ => none

/-- The number that digits of a base write. -/
def valueOf (base : Nat) (digits : Octets) : Nat :=
  digits.foldl (fun n c => base * n + (Text.hexValue? c).getD 0) 0

/-- The byte that digits of a base write. -/
def byteOf (base : Nat) (digits : Octets) : Piece := .text [Char.ofNat (valueOf base digits % 256)]

/-- The hexadecimal digits in front, no more than `most`. -/
def hexDigits (most : Nat) (cs : Octets) : Octets :=
  (cs.take most).takeWhile fun c => (Text.hexValue? c).isSome

/-- The character of a number. Halves of pairs are refused, and numbers beyond the last character
stay as they are written. -/
def characterOf (mark : Char) (digits : Octets) : Piece :=
  let n := valueOf 16 digits
  if n.isValidChar then .text (Octets.ofText (String.singleton (Char.ofNat n)))
  else if n < 0x110000 then
    .broken ("invalid universal character name \\" ++ String.ofList (mark :: digits))
  else .text ('\\' :: mark :: digits.map Char.toUpper)

/-- The complaint about an escape that lacks its digits. -/
def noDigits : Piece := .broken "missing hexadecimal number in escape"

/-- The escape behind a backslash, and the number of characters that it takes. -/
def escape? (e : Escapes) : Octets → Option (Piece × Nat)
  | [] => none
  | 'c' :: _ => if e.ending then some (.stop, 1) else none
  | 'x' :: rest =>
    let digits := hexDigits 2 rest
    if !e.hexadecimal then none
    else if digits.isEmpty then if e.characters then some (noDigits, 1) else none
    else some (byteOf 16 digits, digits.length + 1)
  | '"' :: _ => if e.quote then some (.text ['"'], 1) else none
  | c :: rest =>
    let count := if c = 'u' then 4 else if c = 'U' then 8 else 0
    if e.characters && count != 0 then
      let digits := hexDigits count rest
      some (if digits.length < count then noDigits else characterOf c digits, digits.length + 1)
    else
      match letterByte? c with
      | some b => some (.text [b], 1)
      | none =>
        if !isOctal c then none
        else
          let count := if c = '0' && e.longOctal then 4 else 3
          let digits := ((c :: rest).take count).takeWhile isOctal
          some (byteOf 8 digits, digits.length)

/-- The pieces of a text; the first `passed` characters belong to an escape. -/
def pieces (e : Escapes) : (passed : Nat) → Octets → List Piece
  | _, [] => []
  | passed + 1, _ :: rest => pieces e passed rest
  | 0, c :: rest =>
    match (if c = '\\' then escape? e rest else none) with
    | some (piece, count) => piece :: pieces e count rest
    | none => .text [c] :: pieces e 0 rest

/-- How the output of a text ends. -/
inductive Ending where
  | whole
  | stopped
  | broken (why : String)
  deriving DecidableEq

/-- What pieces write, up to the one that ends the output. -/
def collect : List Piece → Octets × Ending
  | [] => ([], .whole)
  | .stop :: _ => ([], .stopped)
  | .broken why :: _ => ([], .broken why)
  | .text data :: rest => (data ++ (collect rest).1, (collect rest).2)

end Switchboard.Tools
