import Switchboard.Text.Blank

/-!
Bytes written in base 64: four characters for every three bytes, padded with equals signs, in lines
of at most 76 characters.
-/
namespace Switchboard.Text.Base64

/-- The characters for the numbers below 64, in order. -/
def alphabet : List Char :=
  "ABCDEFGHIJKLMNOPQRSTUVWXYZabcdefghijklmnopqrstuvwxyz0123456789+/".toList

/-- The character for a number below 64. -/
def digit (n : Nat) : Char := alphabet.getD (n % 64) '='

/-- The value of a character of the alphabet. -/
def value? (c : Char) : Option Nat :=
  if 'A' ≤ c && c ≤ 'Z' then some (c.toNat - 'A'.toNat)
  else if 'a' ≤ c && c ≤ 'z' then some (c.toNat - 'a'.toNat + 26)
  else if isDigit c then some (digitValue c + 52)
  else if c = '+' then some 62
  else if c = '/' then some 63
  else none

/-- The characters for bytes, without line breaks. -/
def encode : List UInt8 → List Char
  | a :: b :: c :: rest =>
    let n := a.toNat * 65536 + b.toNat * 256 + c.toNat
    digit (n / 262144) :: digit (n / 4096) :: digit (n / 64) :: digit n :: encode rest
  | [a, b] =>
    let n := a.toNat * 65536 + b.toNat * 256
    [digit (n / 262144), digit (n / 4096), digit (n / 64), '=']
  | [a] =>
    let n := a.toNat * 65536
    [digit (n / 262144), digit (n / 4096), '=', '=']
  | [] => []

/-- The lines for bytes, 57 bytes a line. -/
def lines (data : List UInt8) : List (List Char) :=
  (List.range ((data.length + 56) / 57)).map fun i => encode ((data.drop (57 * i)).take 57)

/-- The bytes that characters write. `count` characters of a group of four have gone before, and `left`
holds those of their bits that are not yet in a byte; `pads` counts the padding since then.
Characters outside the alphabet are passed over, and a group must not be left open. -/
def decodeFrom (count left pads : Nat) : List Char → Option (List UInt8)
  | [] => if count = 0 then some [] else none
  | c :: rest =>
    if c = '=' then
      if 2 ≤ count && 4 ≤ count + pads + 1 then some []
      else decodeFrom count left (if 2 ≤ count then pads + 1 else pads) rest
    else
      match value? c with
      | none => decodeFrom count left pads rest
      | some v =>
        let bits := 64 * left + v
        match count with
        | 0 => decodeFrom 1 v 0 rest
        | 1 => (decodeFrom 2 (bits % 16) 0 rest).map (UInt8.ofNat (bits / 16) :: ·)
        | 2 => (decodeFrom 3 (bits % 4) 0 rest).map (UInt8.ofNat (bits / 4) :: ·)
        | _ => (decodeFrom 0 0 0 rest).map (UInt8.ofNat bits :: ·)

/-- The bytes that an ASCII text writes. -/
def decode? (cs : List Char) : Option (List UInt8) :=
  if cs.all (·.toNat < 128) then decodeFrom 0 0 0 cs else none

end Switchboard.Text.Base64
