import Switchboard.Text.Blank

/-!
UTF-8: the bytes of a text, and the text of bytes.

`sequence` reads one character, or says how many bytes belong to a sequence that is cut short or
broken. A strict reading refuses any such sequence; a lenient one puts a replacement character in its
place.
-/
namespace Switchboard.Text.Utf8

/-- The bytes of a character. -/
def encodeChar (c : Char) : List UInt8 :=
  let n := c.toNat
  let tail (shift : Nat) : Nat := 0x80 + n / Nat.pow 2 shift % 64
  let bytes :=
    if n < 0x80 then [n]
    else if n < 0x800 then [0xC0 + n / 64, tail 0]
    else if n < 0x10000 then [0xE0 + n / 4096, tail 6, tail 0]
    else [0xF0 + n / 262144, tail 12, tail 6, tail 0]
  bytes.map UInt8.ofNat

/-- The bytes of a text. -/
def encode (s : String) : List UInt8 := s.toList.flatMap encodeChar

/-- A lead byte: how many bytes follow it, the bits it carries, and the range of the byte behind it. -/
structure Lead where
  more : Nat
  bits : Nat
  low : Nat
  high : Nat

/-- What a byte can lead. Longer forms than needed, halves of pairs and numbers beyond the last
character are excluded by the range of the second byte. -/
def lead? (b : Nat) : Option Lead :=
  if b < 0x80 then some ⟨0, b, 0, 0⟩
  else if b < 0xC2 then none
  else if b < 0xE0 then some ⟨1, b - 0xC0, 0x80, 0xBF⟩
  else if b < 0xF0 then
    some ⟨2, b - 0xE0, if b = 0xE0 then 0xA0 else 0x80, if b = 0xED then 0x9F else 0xBF⟩
  else if b < 0xF5 then
    some ⟨3, b - 0xF0, if b = 0xF0 then 0x90 else 0x80, if b = 0xF4 then 0x8F else 0xBF⟩
  else none

/-- Reads `more` bytes behind a lead byte: the number they complete, if they are all there, and how
many of them fit. -/
def follow (more bits low high : Nat) (bytes : List UInt8) : Option Nat × Nat :=
  match more, bytes with
  | 0, _ => (some bits, 0)
  | _ + 1, [] => (none, 0)
  | more + 1, b :: rest =>
    if low ≤ b.toNat && b.toNat ≤ high then
      let (n, count) := follow more (bits * 64 + (b.toNat - 0x80)) 0x80 0xBF rest
      (n, count + 1)
    else (none, 0)

/-- The character at the start of some bytes, or nothing for a broken sequence, and the number of
bytes behind the first that belong to it. -/
def sequence (first : UInt8) (rest : List UInt8) : Option Char × Nat :=
  match lead? first.toNat with
  | none => (none, 0)
  | some lead =>
    let (n, count) := follow lead.more lead.bits lead.low lead.high rest
    (n.map Char.ofNat, count)

/-- The characters and broken sequences of some bytes; the first `passed` bytes belong to the one
before. -/
def decodeFrom : (passed : Nat) → List UInt8 → List (Option Char)
  | _, [] => []
  | passed + 1, _ :: rest => decodeFrom passed rest
  | 0, b :: rest => (sequence b rest).1 :: decodeFrom (sequence b rest).2 rest

/-- The text of bytes that are well formed. -/
def decode? (bytes : List UInt8) : Option (List Char) := (decodeFrom 0 bytes).mapM id

/-- The text of any bytes, with a replacement character for each broken sequence. -/
def decodeLenient (bytes : List UInt8) : List Char :=
  (decodeFrom 0 bytes).map (·.getD '\uFFFD')

/-! ### The first broken sequence -/

/-- A sequence of bytes that is no character: where it starts, its bytes as far as they fit, and
whether the bytes end inside it. -/
structure Fault where
  position : Nat
  bytes : List UInt8
  isCut : Bool
  deriving DecidableEq

/-- The message for it. -/
def Fault.message (f : Fault) : String :=
  let reason :=
    if f.isCut then "unexpected end of data"
    else
      match f.bytes.head?.bind (lead? ·.toNat) with
      | none => "invalid start byte"
      | some _ => "invalid continuation byte"
  let place := match f.bytes with
    | [b] => "byte 0x" ++ String.ofList (hex 2 b.toNat) ++ " in position " ++ toString f.position
    | bytes => "bytes in position " ++ toString f.position ++ "-"
        ++ toString (f.position + bytes.length - 1)
  "'utf-8' codec can't decode " ++ place ++ ": " ++ reason

/-- The first broken sequence of some bytes; `position` of them stand before these, and the first
`passed` belong to the character before. -/
def firstFault (position : Nat) : (passed : Nat) → List UInt8 → Option Fault
  | _, [] => none
  | passed + 1, _ :: rest => firstFault (position + 1) passed rest
  | 0, b :: rest =>
    match sequence b rest with
    | (some _, count) => firstFault (position + 1) count rest
    | (none, count) =>
      some ⟨position, b :: rest.take count, (lead? b.toNat).isSome && rest.length = count⟩

/-- The text of bytes, or their first broken sequence. -/
def read (bytes : List UInt8) : Except Fault (List Char) :=
  match decode? bytes, firstFault 0 0 bytes with
  | some cs, _ => .ok cs
  | none, some fault => .error fault
  | none, none => .error ⟨0, bytes, true⟩

end Switchboard.Text.Utf8
