import Switchboard.Text.Blank

/-!
A place in a text, with its line and its column, and the kinds of characters that end lines and words.

`Cursor.peek` answers with the character U+0000 behind the end; no text that is read contains it.
-/
namespace Switchboard.Yaml

/-- How a text is read. Settings are `spaced`: outside quotes only spaces separate tokens, and a byte
order mark stands at the start of the text alone. What stands in front of prompts is `tabbed`: tabs
separate tokens wherever they are not indentation, a byte order mark may start any line, and
directives, tags and escapes are checked more closely. -/
inductive Dialect where
  | spaced
  | tabbed
  deriving DecidableEq

/-- What is left of a text, where it starts, and how the text is read. -/
structure Cursor where
  dialect : Dialect
  rest : List Char
  index : Nat
  line : Nat
  column : Nat

/-- The end of a text as a character. -/
def nul : Char := '\x00'

/-- A character that ends a line. -/
def isLineBreak (c : Char) : Bool :=
  c = '\n' || c = '\r' || c = '\x85' || c = '\u2028' || c = '\u2029'

/-- The end of a line or of the text. -/
def isLineEnd (c : Char) : Bool := c = nul || isLineBreak c

/-- The end of a line or of the text, or a space. -/
def isSpaceOrEnd (c : Char) : Bool := c = ' ' || isLineEnd c

/-- A space or a tab. -/
def isSpaceOrTab (c : Char) : Bool := c = ' ' || c = '\t'

/-- The end of a line or of the text, a space or a tab. -/
def isWordEnd (c : Char) : Bool := c = '\t' || isSpaceOrEnd c

/-- A character of a name. -/
def isNameChar (c : Char) : Bool := Text.isLetter c || Text.isDigit c || c = '-' || c = '_'

namespace Cursor

/-- The start of a text. -/
def start (dialect : Dialect) (cs : List Char) : Cursor := ⟨dialect, cs, 0, 0, 0⟩

/-- Whether the text is read as the prompts' are. -/
def isTabbed (c : Cursor) : Bool := c.dialect = .tabbed

/-- The character here. -/
def here (c : Cursor) : Char := c.rest.head?.getD nul

/-- The character `k` places further on. -/
def peek (c : Cursor) (k : Nat) : Char := (c.rest[k]?).getD nul

/-- One character further. In settings a byte order mark takes no column. -/
def next (c : Cursor) : Cursor :=
  match c.rest with
  | [] => c
  | d :: rest =>
    if isLineBreak d && !(d = '\r' && rest.head? = some '\n') then { c with rest, index := c.index + 1, line := c.line + 1, column := 0 }
    else
      let width := if d = '\uFEFF' && !c.isTabbed then 0 else 1
      { c with rest, index := c.index + 1, column := c.column + width }

/-- Further by a number of characters. -/
def forward : Nat → Cursor → Cursor
  | 0, c => c
  | n + 1, c => forward n c.next

/-- The longest run of characters of a kind, and the place behind it. -/
def span (p : Char → Bool) (c : Cursor) : List Char × Cursor :=
  let run := c.rest.takeWhile p
  (run, c.forward run.length)

/-- The place behind a run of characters of a kind. -/
def skip (p : Char → Bool) (c : Cursor) : Cursor := (c.span p).2

/-- The place behind spaces. -/
def skipSpaces (c : Cursor) : Cursor := c.skip (· = ' ')

/-- The place behind what separates words on a line. -/
def skipBlanks (c : Cursor) : Cursor := if c.isTabbed then c.skip isSpaceOrTab else c.skipSpaces

/-- Whether a word that is no scalar ends here: at a blank or at the end of the line. -/
def isAtGap (c : Cursor) : Bool := if c.isTabbed then isWordEnd c.here else isSpaceOrEnd c.here

/-- The place behind a comment, if one starts here. -/
def skipComment (c : Cursor) : Cursor := if c.here = '#' then c.skip (!isLineEnd ·) else c

/-- The line break here, with the usual ones all written the same, and the place behind it. -/
def takeBreak (c : Cursor) : List Char × Cursor :=
  match c.rest with
  | '\r' :: '\n' :: _ => (['\n'], c.forward 2)
  | d :: _ =>
    if d = '\u2028' || d = '\u2029' then ([d], c.next)
    else if isLineBreak d then (['\n'], c.next)
    else ([], c)
  | [] => ([], c)

/-- Whether three given characters and the end of a word stand here. -/
def isAtMark (mark : List Char) (c : Cursor) : Bool :=
  Text.startsWith mark c.rest && isWordEnd (c.peek 3)

/-- Whether the mark between two documents stands here. -/
def isAtSeparator (c : Cursor) : Bool :=
  c.isAtMark ['-', '-', '-'] || c.isAtMark ['.', '.', '.']

end Cursor

end Switchboard.Yaml
