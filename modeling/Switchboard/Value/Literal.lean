import Switchboard.Value.Moment
import Switchboard.Text.Quoted
import Switchboard.Decimal.Shortest

/-!
Values as messages show them: `None`, `True`, quoted texts, lists in square brackets and mappings in
braces. A collection that is being shown inside itself is abridged to three dots.
-/
namespace Switchboard

/-- Numbers are positional from 0.0001 up to sixteen digits before the point. -/
def numberStyle : Decimal.FloatStyle :=
  ⟨-4, 16, false, "inf", "-inf", "nan"⟩

/-- The text of a double, with the fewest digits that read back. -/
def floatText (x : Float) : String := Decimal.floatText numberStyle x

/-- A byte as quoted bytes show it. -/
def byteLiteral (quote : Char) (b : UInt8) : List Char :=
  let c := Char.ofNat b.toNat
  if c = quote || c = '\\' || c = '\n' || c = '\r' || c = '\t' then Text.escapeIn quote c
  else if 0x20 ≤ b.toNat && b.toNat < 0x7F then [c]
  else '\\' :: 'x' :: Text.hex 2 b.toNat

/-- Bytes between quotes. -/
def bytesLiteral (data : List UInt8) : String :=
  let quote := Text.quoteFor (data.map fun b => Char.ofNat b.toNat)
  String.ofList ('b' :: quote :: data.flatMap (byteLiteral quote) ++ [quote])

/-- A truth value with a capital letter. -/
def boolLiteral (b : Bool) : String := if b then "True" else "False"

/-- The literal of a key. -/
def Key.literal : Key → String
  | .text s => Text.quoted s
  | .null => "None"
  | .bool b => boolLiteral b
  | .int i => toString i
  | .float x => floatText x
  | .moment m => m.literal
  | .bytes data => bytesLiteral data

/-- A key in running text: a text key without quotes. -/
def Key.plain : Key → String
  | .text s => s
  | .moment m => m.text " "
  | key => key.literal

namespace Value

mutual

/-- The literal of a value. -/
def literal : Value → String
  | .null => "None"
  | .bool b => boolLiteral b
  | .int i => toString i
  | .float x => floatText x
  | .str s => Text.quoted s
  | .list items => "[" ++ Text.join ", " (itemLiterals items) ++ "]"
  | .tuple [item] => "(" ++ literal item ++ ",)"
  | .tuple items => "(" ++ Text.join ", " (itemLiterals items) ++ ")"
  | .set [] => "set()"
  | .set keys => "\x7b" ++ Text.join ", " (keys.map Key.literal) ++ "\x7d"
  | .object members => "\x7b" ++ Text.join ", " (memberLiterals members) ++ "\x7d"
  | .moment m => m.literal
  | .bytes data => bytesLiteral data
  | .foreign kind => "<" ++ kind ++ ">"
  | .shared _ .outputs | .enclosing false => "[...]"
  | .shared _ .named | .enclosing true => "\x7b...\x7d"

/-- The literals of list items. -/
def itemLiterals : List Value → List String
  | [] => []
  | v :: rest => literal v :: itemLiterals rest

/-- The literals of members, each a key, a colon and a value. -/
def memberLiterals : List (Key × Value) → List String
  | [] => []
  | (k, v) :: rest => (k.literal ++ ": " ++ literal v) :: memberLiterals rest

end

/-- A value in running text: a text without quotes. -/
def plain : Value → String
  | .str s => s
  | .moment m => m.text " "
  | v => v.literal

end Value

end Switchboard
