import Switchboard.Text.Blank
import Switchboard.Text.Printable

/-!
Quoted texts, as messages show them: between single quotes, or between double quotes when the text
holds a single quote and no double one.
-/
namespace Switchboard.Text

/-- The single quote. -/
def singleQuote : Char := '\x27'

/-- The double quote. -/
def doubleQuote : Char := '"'

/-- The quote that `cs` is shown between. -/
def quoteFor (cs : List Char) : Char :=
  if cs.contains singleQuote && !cs.contains doubleQuote then doubleQuote else singleQuote

/-- One character between quotes: itself when it is printable, otherwise an escape. -/
def escapeIn (quote c : Char) : List Char :=
  if c = quote || c = '\\' then ['\\', c]
  else if c = '\n' then ['\\', 'n']
  else if c = '\r' then ['\\', 'r']
  else if c = '\t' then ['\\', 't']
  else if isPrintable c then [c]
  else if c.toNat < 0x100 then '\\' :: 'x' :: hex 2 c.toNat
  else if c.toNat < 0x10000 then '\\' :: 'u' :: hex 4 c.toNat
  else '\\' :: 'U' :: hex 8 c.toNat

/-- A text between quotes. -/
def quoted (s : String) : String :=
  let quote := quoteFor s.toList
  String.ofList (quote :: s.toList.flatMap (escapeIn quote) ++ [quote])

end Switchboard.Text
