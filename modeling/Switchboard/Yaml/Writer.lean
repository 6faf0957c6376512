import Switchboard.Yaml.Scalar
import Switchboard.Value.Sorted
import Switchboard.Text.Base64

/-!
YAML texts of values, in block style, ASCII only, with keys in order and lines of about eighty columns.

Text is written plainly where it would be read back as the same text, between single quotes where
that suffices, and between double quotes with escapes otherwise. A scalar that runs past column 80 is
continued on the next line at its indentation.
-/
namespace Switchboard.Yaml

/-- The column that a line may run past only up to its next space. -/
def bestWidth : Nat := 80

/-- A line break in the sense of the format. -/
def isBreak (c : Char) : Bool := c = '\n' || c = '\x85' || c = '\u2028' || c = '\u2029'

/-- What parts an indicator from what follows it. -/
def isSeparator (c : Char) : Bool := c = '\x00' || c = ' ' || c = '\t' || c = '\r' || isBreak c

/-- Whether a character can stand outside double quotes in an ASCII text. -/
def isOrdinary (c : Char) : Bool := c = '\n' || (0x20 ≤ c.toNat && c.toNat ≤ 0x7E)

/-- The characters that mean something at the start of a node. -/
def leadingIndicators : List Char :=
  ['#', ',', '[', ']', '{', '}', '&', '*', '!', '|', '>', '\x27', '"', '%', '@', '\x60']

/-- Whether a character, with its neighbours, would be read as an indicator. -/
def isIndicator (first : Bool) (before : Char) (c : Char) (after : Option Char) : Bool :=
  let parted := match after with | none => true | some d => isSeparator d
  if first then c ∈ leadingIndicators || ((c = '?' || c = ':' || c = '-') && parted)
  else (c = ':' && parted) || (c = '#' && isSeparator before)

/-- Whether a text holds an indicator; `before` is the character in front, if there is one. -/
def hasIndicator (before : Option Char) : List Char → Bool
  | [] => false
  | c :: rest =>
    isIndicator before.isNone (before.getD ' ') c rest.head? || hasIndicator (some c) rest

/-- Whether a character that `p` holds of stands right in front of one that `q` holds of. -/
def hasPair (p q : Char → Bool) : List Char → Bool
  | c :: d :: rest => (p c && q d) || hasPair p q (d :: rest)
  | _ => false

/-- A space. -/
def isSpace (c : Char) : Bool := c = ' '

/-- The ways to write a text. -/
inductive Style where
  | plain
  | single
  | double
  deriving DecidableEq

/-- Whether a text can stand plainly as far as its characters go. -/
def allowsPlain (cs : List Char) : Bool :=
  !cs.isEmpty && cs.all isOrdinary && !cs.any isBreak && !hasIndicator none cs
    && !Text.startsWith ['-', '-', '-'] cs && !Text.startsWith ['.', '.', '.'] cs
    && cs.head? != some ' ' && cs.getLast? != some ' '

/-- Whether a text can stand between single quotes: ordinary characters only, and no space next to a
line break. -/
def allowsSingle (cs : List Char) : Bool :=
  cs.all isOrdinary && !hasPair isSpace isBreak cs && !hasPair isBreak isSpace cs

/-- The way in which a text is written; `key` says that it is a key on the line of its value. -/
def styleOf (key : Bool) (s : String) : Style :=
  let cs := s.toList
  if classify s = .text && allowsPlain cs then .plain
  else if allowsSingle cs && !(key && cs.any isBreak) then .single
  else .double

/-- A text under way: what was written, latest character first, and the column reached. -/
structure Pen where
  written : List Char
  column : Nat

namespace Pen

/-- Writes characters on the current line. -/
def put (pen : Pen) (cs : List Char) : Pen := ⟨cs.reverse ++ pen.written, pen.column + cs.length⟩

/-- Starts `count` new lines, the last at column `indent`. -/
def newlines (pen : Pen) (count indent : Nat) : Pen :=
  ⟨List.replicate indent ' ' ++ List.replicate count '\n' ++ pen.written, indent⟩

/-- Goes to column `indent` of a new line; a line on which nothing stands yet is new. -/
def freshLine (pen : Pen) (indent : Nat) : Pen :=
  pen.newlines (if pen.column = 0 then 0 else 1) indent

end Pen

/-- Maximal runs of equal class: spaces, line breaks, others. -/
def runs : List Char → List (List Char)
  | [] => []
  | c :: rest =>
    match runs rest with
    | [] => [[c]]
    | run :: more =>
      let class' (d : Char) : Nat := if isSpace d then 0 else if isBreak d then 1 else 2
      match run with
      | d :: _ => if class' c = class' d then (c :: run) :: more else [c] :: run :: more
      | [] => [c] :: more

/-- Whether a run is a single space at which a line may be broken. -/
def foldable (split : Bool) (pen : Pen) (run : List Char) : Bool :=
  split && run = [' '] && pen.column > bestWidth

/-- Writes the runs of a plain text. -/
def putPlain (indent : Nat) (split : Bool) (pen : Pen) : List (List Char) → Pen
  | [] => pen
  | run :: rest =>
    let pen := if foldable split pen run then pen.newlines 1 indent else pen.put run
    putPlain indent split pen rest

/-- Writes the runs of a text between single quotes; a line is never broken at the first or the last
run, and a line break in the text is written as two. -/
def putSingle (indent : Nat) (split : Bool) (pen : Pen) (first : Bool) : List (List Char) → Pen
  | [] => pen
  | run :: rest =>
    let pen :=
      if !first && !rest.isEmpty && foldable split pen run then pen.newlines 1 indent
      else if run.any isBreak then pen.newlines (run.length + 1) indent
      else pen.put (run.flatMap fun c => if c = '\x27' then ['\x27', '\x27'] else [c])
    putSingle indent split pen false rest

/-- The letter of a short escape. -/
def escapeLetter? (c : Char) : Option Char :=
  [('\x00', '0'), ('\x07', 'a'), ('\x08', 'b'), ('\t', 't'), ('\n', 'n'), ('\x0b', 'v'),
    ('\x0c', 'f'), ('\r', 'r'), ('\x1b', 'e'), ('"', '"'), ('\\', '\\'), ('\x85', 'N'),
    ('\xa0', '_'), ('\u2028', 'L'), ('\u2029', 'P')].lookup c

/-- Upper-case hexadecimal digits. -/
def upperHex (width n : Nat) : List Char := (Text.hex width n).map Char.toUpper

/-- The escape of a character between double quotes, if it needs one. -/
def doubleEscape? (c : Char) : Option (List Char) :=
  if 0x20 ≤ c.toNat && c.toNat ≤ 0x7E && c != '"' && c != '\\' then none
  else match escapeLetter? c with
    | some letter => some ['\\', letter]
    | none =>
      if c.toNat < 0x100 then some ('\\' :: 'x' :: upperHex 2 c.toNat)
      else if c.toNat < 0x10000 then some ('\\' :: 'u' :: upperHex 4 c.toNat)
      else some ('\\' :: 'U' :: upperHex 8 c.toNat)

/-- Breaks a line between double quotes: a backslash ends it, and another one protects a space at the
start of the next. -/
def breakDouble (indent : Nat) (pen : Pen) (next : Option Char) : Pen :=
  let pen := (pen.put ['\\']).newlines 1 indent
  if next = some ' ' then pen.put ['\\'] else pen

/-- Writes a text between double quotes; `pending` holds the characters since the last escape or line
break, and `first` says that none was passed yet. -/
def putDouble (indent : Nat) (split : Bool) (pen : Pen) (pending : List Char) (first : Bool) :
    List Char → Pen
  | [] => pen.put pending
  | c :: rest =>
    let inner := split && !first && !rest.isEmpty
    match doubleEscape? c with
    | some escape =>
      let pen := (pen.put pending).put escape
      let pen := if inner && pen.column > bestWidth + 1 then breakDouble indent pen rest.head? else pen
      putDouble indent split pen [] false rest
    | none =>
      if inner && (c = ' ' || pending.isEmpty) && pen.column + pending.length > bestWidth then
        putDouble indent split (breakDouble indent (pen.put pending) (some c)) [c] false rest
      else putDouble indent split pen (pending ++ [c]) false rest

/-- Writes a text in its style. -/
def putText (indent : Nat) (key split : Bool) (pen : Pen) (s : String) : Pen :=
  let cs := s.toList
  match styleOf key s with
  | .plain => putPlain indent split pen (runs cs)
  | .single => (putSingle indent split (pen.put ['\x27']) true (runs cs)).put ['\x27']
  | .double => (putDouble indent split (pen.put ['"']) [] true cs).put ['"']

/-- Numbers in this format: as elsewhere, but with a point in every mantissa. -/
def numberStyle : Decimal.FloatStyle := ⟨-4, 16, true, ".inf", "-.inf", ".nan"⟩

/-- The text of a scalar that is not a text, and the length of its tag. -/
def plainText? : Value → Option (String × Nat)
  | .null => some ("null", 6)
  | .bool b => some (if b then "true" else "false", 6)
  | .int i => (Text.Numeral.intText? i).map fun s => (s, 5)
  | .float x => some (Decimal.floatText numberStyle x, 7)
  | .moment m => some (m.text " ", 11)
  | _ => none

/-- Whether a key stands on the line of its value: it is not empty, holds no line break, and its text
with its tag is shorter than 128. -/
def isSimpleKey (key : Key) : Bool :=
  match key with
  | .text s => s != "" && !s.toList.any isBreak && s.length + 5 < 128
  | key => ((plainText? (key.toValue)).map fun (s, tag) => decide (s.length + tag < 128)).getD false

/-- Why a value has no YAML text: it is of a kind that the format has no form for, or an integer that is
too long. -/
inductive Unwritable where
  | foreign (kind : String)
  | tooManyDigits

namespace Unwritable

/-- The obstacle that a value is if it has no text. -/
def ofValue : Value → Unwritable
  | .int _ => .tooManyDigits
  | v => .foreign v.kindName

/-- The word for the kind of the value. -/
def kind : Unwritable → String
  | .foreign kind => kind
  | .tooManyDigits => "int"

/-- The message for it. -/
def message : Unwritable → String
  | .foreign _ => "cannot represent an object"
  | .tooManyDigits => Text.Numeral.noTextMessage

end Unwritable

/-- Writes bytes as a block of lines in base 64, behind their tag. -/
def putBytes (indent : Nat) (pen : Pen) (data : List UInt8) : Pen :=
  if data.isEmpty then pen.put "!!binary \"\"".toList
  else
    let pen := pen.put "!!binary |".toList
    ((Text.Base64.lines data).foldl (fun pen line => (pen.newlines 1 indent).put line) pen).newlines 1 0

/-- Writes a scalar or an empty collection; `none` stands for a collection with content. -/
def putScalar? (indent : Nat) (key split : Bool) (pen : Pen) : Value → Except Unwritable (Option Pen)
  | .str s => .ok (some (putText indent key split pen s))
  | .bytes data => .ok (some (putBytes indent pen data))
  | .list [] | .tuple [] => .ok (some (pen.put ['[', ']']))
  | .object [] => .ok (some (pen.put ['{', '}']))
  | .set [] => .ok (some (pen.put "!!set \x7b\x7d".toList))
  | .list _ | .tuple _ | .object _ | .set _ => .ok none
  | v =>
    match plainText? v with
    | some (s, _) => .ok (some (putPlain indent split pen (runs s.toList)))
    | none => .error (.ofValue v)

/-- Writes a key and the colon behind it. A key that is not simple stands behind a question mark, and
the colon starts the next line. -/
def putKey (indent : Nat) (pen : Pen) (key : Key) : Except Unwritable Pen := do
  if isSimpleKey key then
    let pen := match key with
      | .text s => putText indent true false pen s
      | key =>
        match plainText? key.toValue with
        | some (s, _) => pen.put s.toList
        | none => pen
    return pen.put [':']
  else
    match ← putScalar? (indent + 2) false true (pen.put ['?', ' ']) key.toValue with
    | some pen => return (pen.freshLine indent).put [':']
    | none => return pen

/-- Writes the keys of a set, each with a null behind it. -/
def putKeys (indent : Nat) (pen : Pen) : List Key → Except Unwritable Pen
  | [] => .ok pen
  | key :: rest => do
    let pen := (← putKey indent pen key).put " null".toList
    match rest with
    | [] => return pen
    | rest => putKeys indent (pen.freshLine indent) rest

mutual

/-- Writes a value behind an indicator at the end of the line, at the indentation `indent` of the
indicator: a collection starts on the same line. -/
def putInline (indent : Nat) (pen : Pen) (v : Value) : Except Unwritable Pen := do
  match ← putScalar? (indent + 2) false true (pen.put [' ']) v with
  | some pen => return pen
  | none => putBlock (indent + 2) (pen.put [' ']) v

/-- Writes a collection from the current position, which is at column `indent`. -/
def putBlock (indent : Nat) (pen : Pen) : Value → Except Unwritable Pen
  | .list items | .tuple items => putItems indent pen items
  | .object members => putMembers indent pen members
  | .set keys => putKeys indent ((pen.put "!!set".toList).newlines 1 indent) keys
  | _ => .ok pen

/-- Writes items, each behind a dash. -/
def putItems (indent : Nat) (pen : Pen) : List Value → Except Unwritable Pen
  | [] => .ok pen
  | v :: rest => do
    let pen ← putInline indent (pen.put ['-']) v
    match rest with
    | [] => return pen
    | rest => putItems indent (pen.freshLine indent) rest

/-- Writes members. The value of a simple key follows a colon, a collection on the lines below; a list
is not indented further than its key. -/
def putMembers (indent : Nat) (pen : Pen) : List (Key × Value) → Except Unwritable Pen
  | [] => .ok pen
  | (k, v) :: rest => do
    let pen ← putKey indent pen k
    let pen ←
      if isSimpleKey k then
        match ← putScalar? (indent + 2) false true (pen.put [' ']) v with
        | some pen => pure pen
        | none =>
          match v with
          | .list items | .tuple items => putItems indent (pen.newlines 1 indent) items
          | .set keys => putKeys (indent + 2) ((pen.put " !!set".toList).newlines 1 (indent + 2)) keys
          | v => putBlock (indent + 2) (pen.newlines 1 (indent + 2)) v
      else putInline indent pen v
    match rest with
    | [] => return pen
    | rest => putMembers indent (pen.freshLine indent) rest

end

/-- Whether a value is written plainly, so that a line of dots has to close the document. -/
def endsOpen : Value → Bool
  | .str s => styleOf false s == .plain
  | v => (plainText? v).isSome

/-- The YAML document of a value. -/
def write (v : Value) : Except Unwritable String := do
  let start : Pen := ⟨[], 0⟩
  let pen ← match ← putScalar? 2 false true start v with
    | some pen => pure pen
    | none => putBlock 0 start v.sorted
  let pen := if endsOpen v then pen.newlines 1 0 |>.put ['.', '.', '.'] else pen
  return String.ofList (pen.freshLine 0).written.reverse

end Switchboard.Yaml
