import Switchboard.Text.Utf8

/-!
Percent escapes: bytes of a text written as two hexadecimal digits behind a percent sign.
-/
namespace Switchboard.Text

/-- The bytes of a text with its percent escapes replaced; a percent sign without two digits behind it
stands for itself. -/
def percentBytes : List Char → List UInt8
  | [] => []
  | '%' :: a :: b :: rest =>
    match hexValue? a, hexValue? b with
    | some x, some y => UInt8.ofNat (16 * x + y) :: percentBytes rest
    | _, _ => Utf8.encodeChar '%' ++ percentBytes (a :: b :: rest)
  | c :: rest => Utf8.encodeChar c ++ percentBytes rest

/-- A text with its percent escapes replaced; bytes that are no UTF-8 become replacement characters. -/
def percentDecoded (cs : List Char) : List Char := Utf8.decodeLenient (percentBytes cs)

/-- The escape of a byte. -/
def percentEscape (b : UInt8) : List Char := '%' :: (hex 2 b.toNat).map Char.toUpper

/-- A text with every character escaped that is not safe. -/
def percentEncoded (safe : Char → Bool) (cs : List Char) : List Char :=
  cs.flatMap fun c => if safe c then [c] else (Utf8.encodeChar c).flatMap percentEscape

end Switchboard.Text
