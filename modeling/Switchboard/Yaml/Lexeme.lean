import Switchboard.Yaml.Cursor
import Switchboard.Yaml.Fault
import Switchboard.Text.Utf8

/-!
The parts of a YAML text that are more than a single mark: directives, anchors, tags, and the three
ways to write a scalar (in quotes, as a block, plain).

Each function starts at a cursor and gives what stands there together with the cursor behind it. Where
the two dialects differ the cursor knows which one is read.
-/
namespace Switchboard.Yaml

/-! ### Names, directives and tags -/

/-- A directive in front of a document. -/
inductive Directive where
  | version (major minor : Nat)
  | handle (handle replacement : String)
  | other
  deriving DecidableEq

/-- A character that can stand in a tag. A comma and square brackets can only where the end of the tag
is marked in another way. -/
def isTagChar (bounded : Bool) (c : Char) : Bool :=
  Text.isLetter c || Text.isDigit c || c ∈ "-;/?:@&=+$_.!~*'()%".toList
    || (bounded && c ∈ ",[]".toList)

/-- The bytes that a run of percent escapes writes. -/
def percentBytes : (fuel : Nat) → Cursor → Result (List UInt8 × Cursor)
  | 0, c => .ok ([], c)
  | fuel + 1, c =>
    if c.here = '%' then
      match Text.hexValue? (c.peek 1), Text.hexValue? (c.peek 2) with
      | some high, some low => do
        let (rest, after) ← percentBytes fuel (c.forward 3)
        return (UInt8.ofNat (16 * high + low) :: rest, after)
      | _, _ => faulty .tagForm
    else .ok ([], c)

/-- The characters of a tag, with percent escapes decoded. -/
def tagChars (bounded : Bool) : (fuel : Nat) → Cursor → Result (List Char × Cursor)
  | 0, c => .ok ([], c)
  | fuel + 1, c =>
    if c.here = '%' then do
      let (bytes, after) ← percentBytes c.rest.length c
      match Text.Utf8.decode? bytes with
      | some decoded =>
        let (rest, after) ← tagChars bounded fuel after
        return (decoded ++ rest, after)
      | none => faulty .tagForm
    else if isTagChar bounded c.here then do
      let (rest, after) ← tagChars bounded fuel c.next
      return (c.here :: rest, after)
    else .ok ([], c)

/-- A tag or a part of one; there is at least one character. -/
def takeTagText (bounded : Bool) (c : Cursor) : Result (String × Cursor) := do
  if !isTagChar bounded c.here then faulty .tagForm
  let (cs, after) ← tagChars bounded c.rest.length c
  return (String.ofList cs, after)

/-- A handle: one exclamation mark, or a name between two. -/
def takeHandle (c : Cursor) : Result (String × Cursor) :=
  if c.here != '!' then faulty .tagForm
  else if c.next.isAtGap then .ok ("!", c.next)
  else
    let (name, after) := c.next.span isNameChar
    if after.here = '!' then .ok ("!" ++ String.ofList name ++ "!", after.next) else faulty .tagForm

/-- The most digits that a number of a version has in front of a prompt. -/
def versionDigits : Nat := 9

/-- A number of a version. -/
def takeNumber (c : Cursor) : Result (Nat × Cursor) :=
  let (digits, after) := c.span Text.isDigit
  if digits.isEmpty || (c.isTabbed && versionDigits < digits.length) then faulty .directive
  else .ok (Text.digitsValue digits, after)

/-- The end of a line behind a directive or the header of a block, with at most a comment on it. In
settings a gap stands in front of the comment. -/
def takeLineRest (f : Fault) (c : Cursor) : Result Cursor :=
  if !c.isTabbed && !isSpaceOrEnd c.here then faulty f
  else
    let c := c.skipBlanks.skipComment
    if isLineEnd c.here then .ok c.takeBreak.2 else faulty f

/-- What a directive says. -/
def takeDirectiveBody (name : String) (c : Cursor) : Result (Directive × Cursor) := do
  match name with
  | "YAML" =>
    let (major, c) ← takeNumber c.skipBlanks
    if c.here != '.' then faulty .directive
    let (minor, c) ← takeNumber c.next
    return (.version major minor, c)
  | "TAG" =>
    let (handle, c) ← takeHandle c.skipBlanks
    if isLineEnd c.here || !c.isAtGap then faulty .directive
    let (replacement, c) ← takeTagText true c.skipBlanks
    if !c.isAtGap then faulty .directive
    return (.handle handle replacement, c)
  | _ =>
    if c.isTabbed then faulty .directive
    return (.other, c.skip (!isLineEnd ·))

/-- A directive, from its percent sign to the end of its line. -/
def takeDirective (c : Cursor) : Result (Directive × Cursor) := do
  let (name, c) := c.next.span isNameChar
  if name.isEmpty || !c.isAtGap then faulty .directive
  let (directive, c) ← takeDirectiveBody (String.ofList name) c
  let c ← takeLineRest .directive c
  return (directive, c)

/-- The name behind the sign of an anchor or an alias. -/
def takeAnchor (c : Cursor) : Result (String × Cursor) :=
  let (name, after) := c.next.span isNameChar
  if name.isEmpty then faulty .anchorName
  else if isWordEnd after.here || after.here ∈ "?:,]\x7d%@\x60".toList then
    .ok (String.ofList name, after)
  else faulty .anchorName

/-- A tag that is written in full, between angle brackets. -/
def takeWholeTag (c : Cursor) : Result (String × Cursor) := do
  let (text, c) ← takeTagText true (c.forward 2)
  if c.here != '>' then faulty .tagForm
  return (text, c.next)

/-- A tag of settings, from behind its first mark: a handle, if there is a second mark before the next
gap, and the rest. -/
def takeSpacedTag (c : Cursor) : Result ((Option String × String) × Cursor) := do
  if isWordEnd (c.peek 1) then return ((none, "!"), c.next)
  let word := c.next.rest.takeWhile (!isSpaceOrEnd ·)
  let (handle, c) ← if '!' ∈ word then takeHandle c else pure ("!", c.next)
  let (text, c) ← takeTagText true c
  return ((some handle, text), c)

/-- A tag in front of a prompt: a handle, if a second mark follows a name, and the rest. -/
def takeTabbedTag (c : Cursor) : Result ((Option String × String) × Cursor) := do
  let (name, after) := c.next.span isNameChar
  if after.here = '!' then
    let (text, c) ← takeTagText false after.next
    return ((some ("!" ++ String.ofList name ++ "!"), text), c)
  let (rest, c) ← tagChars false after.rest.length after
  let text := String.ofList (name ++ rest)
  return (if text.isEmpty then (none, "!") else (some "!", text), c)

/-- A tag: a handle, unless the tag is written in full, and the rest. -/
def takeTag (inFlow : Bool) (c : Cursor) : Result ((Option String × String) × Cursor) := do
  let (tag, c) ←
    if c.peek 1 = '<' then do
      let (text, c) ← takeWholeTag c
      pure ((none, text), c)
    else if c.isTabbed then takeTabbedTag c
    else takeSpacedTag c
  if c.isAtGap || (c.isTabbed && inFlow && c.here = ',') then return (tag, c) else faulty .tagForm

/-! ### Blocks -/

/-- What becomes of the line breaks at the end of a block. -/
inductive Chomping where
  | clip
  | strip
  | keep
  deriving DecidableEq

/-- The chomping that a character asks for. -/
def chompingOf? : Char → Option Chomping
  | '+' => some .keep
  | '-' => some .strip
  | _ => none

/-- The indentation that a digit asks for. -/
def incrementOf? (c : Char) : Option Nat :=
  if Text.isDigit c then some (Text.digitValue c) else none

/-- The header of a block: chomping and indentation in either order, both optional. -/
def takeBlockHeader (c : Cursor) : Result ((Chomping × Option Nat) × Cursor) := do
  let (header, c) := match chompingOf? c.here, incrementOf? c.here with
    | some chomping, _ =>
      match incrementOf? (c.peek 1) with
      | some n => ((chomping, some n), c.forward 2)
      | none => ((chomping, none), c.next)
    | none, some n =>
      match chompingOf? (c.peek 1) with
      | some chomping => ((chomping, some n), c.forward 2)
      | none => ((.clip, some n), c.next)
    | none, none => ((.clip, none), c)
  if header.2 = some 0 then faulty .blockHeader
  return (header, ← takeLineRest .blockHeader c)

/-- Spaces up to a column. -/
def skipIndent (indent : Nat) (c : Cursor) : Cursor :=
  c.forward ((c.rest.take (indent - c.column)).takeWhile (· = ' ')).length

/-- The empty lines in front of a line of a block. In front of prompts no tab may stand where the
indentation is missing. -/
def takeBreaks (indent : Nat) : (fuel : Nat) → Cursor → Result (List Char × Cursor)
  | 0, c => .ok ([], c)
  | fuel + 1, c => do
    let c := skipIndent indent c
    if c.isTabbed && c.here = '\t' && c.column < indent then faulty .tab
    if isLineBreak c.here then
      let (b, c) := c.takeBreak
      let (breaks, c) ← takeBreaks indent fuel c
      return (b ++ breaks, c)
    else return ([], c)

/-- The empty lines in front of a block, and the greatest column that spaces reach before its first
line. -/
def takeIndentation : (fuel greatest : Nat) → Cursor → Result ((List Char × Nat) × Cursor)
  | 0, greatest, c => .ok (([], greatest), c)
  | fuel + 1, greatest, c => do
    if c.here = ' ' then takeIndentation fuel (max greatest c.next.column) c.next
    else if c.isTabbed && c.here = '\t' then faulty .tab
    else if isLineBreak c.here then
      let (b, c) := c.takeBreak
      let ((breaks, greatest), c) ← takeIndentation fuel greatest c
      return ((b ++ breaks, greatest), c)
    else return (([], greatest), c)

/-- Whether the lines of a block are folded, how its end is chomped, and how far it is indented. -/
structure BlockStyle where
  folded : Bool
  chomping : Chomping
  indent : Nat

/-- The text of a block from its first line; `breaks` are the empty lines in front of the line. -/
def takeBlockLines (style : BlockStyle) :
    (fuel : Nat) → (breaks : List Char) → Cursor → Result (List Char × Cursor)
  | 0, _, c => .ok ([], c)
  | fuel + 1, breaks, c => do
    let startsBlank (c : Cursor) : Bool := isSpaceOrTab c.here
    let (line, after) := c.span (!isLineEnd ·)
    let (ending, after) := after.takeBreak
    let (between, after) ← takeBreaks style.indent after.rest.length after
    if after.column = style.indent && after.here != nul then
      let folds := style.folded && ending = ['\n'] && !startsBlank c && !startsBlank after
      let joint := if folds then (if between.isEmpty then [' '] else []) else ending
      let (rest, last) ← takeBlockLines style fuel between after
      return (breaks ++ line ++ joint ++ rest, last)
    else
      let tail := match style.chomping with
        | .clip => ending
        | .strip => []
        | .keep => ending ++ between
      return (breaks ++ line ++ tail, after)

/-- A block; `indent` is the indentation of the collection around it. -/
def takeBlock (indent : Int) (c : Cursor) : Result (String × Cursor) := do
  let folded := c.here = '>'
  let ((chomping, increment), c) ← takeBlockHeader c.next
  let least := (max (indent + 1) 1).toNat
  let (column, breaks, c) ← match increment with
    | none => do
      let ((breaks, greatest), c) ← takeIndentation (2 * c.rest.length + 1) 0 c
      pure (max least greatest, breaks, c)
    | some n => do
      let column := least + n - 1
      let (breaks, c) ← takeBreaks column (c.rest.length + 1) c
      pure (column, breaks, c)
  if c.column = column && c.here != nul then
    let (cs, c) ← takeBlockLines ⟨folded, chomping, column⟩ (c.rest.length + 1) breaks c
    return (String.ofList cs, c)
  else return (String.ofList (if chomping = .keep then breaks else []), c)

/-! ### Quoted scalars -/

/-- The character for a one-letter escape. -/
def escape? : Char → Option Char
  | '0' => some '\x00'
  | 'a' => some '\x07'
  | 'b' => some '\x08'
  | 't' => some '\t'
  | '\t' => some '\t'
  | 'n' => some '\n'
  | 'v' => some '\x0b'
  | 'f' => some '\x0c'
  | 'r' => some '\r'
  | 'e' => some '\x1b'
  | ' ' => some ' '
  | '"' => some '"'
  | '\\' => some '\\'
  | '/' => some '/'
  | 'N' => some '\x85'
  | '_' => some '\xa0'
  | 'L' => some '\u2028'
  | 'P' => some '\u2029'
  | _ => none

/-- The number of hexadecimal digits behind a letter. -/
def escapeWidth? : Char → Option Nat
  | 'x' => some 2
  | 'u' => some 4
  | 'U' => some 8
  | _ => none

/-- The character of a number. In settings halves of pairs, which no text can hold, give a replacement
character. -/
def characterOf (dialect : Dialect) (n : Nat) : Result Char :=
  if dialect = .tabbed && !n.isValidChar then faulty .escape
  else if n ≥ Nat.pow 2 31 then .error (.scalar .characterSize)
  else if n > 0x10FFFF then .error (.scalar .character)
  else if 0xD800 ≤ n && n < 0xE000 then .ok '\uFFFD'
  else .ok (Char.ofNat n)

/-- The character behind an escape with a number of digits. -/
def takeNumbered (width : Nat) (c : Cursor) : Result (Char × Cursor) := do
  let digits := c.rest.take width
  match digits.mapM Text.hexValue? with
  | some values =>
    if values.length < width then faulty .escape
    let d ← characterOf c.dialect (values.foldl (fun n v => 16 * n + v) 0)
    return (d, c.forward width)
  | none => faulty .escape

/-- The empty lines inside a quoted scalar. -/
def takeQuotedBreaks : (fuel : Nat) → Cursor → Result (List Char × Cursor)
  | 0, c => .ok ([], c)
  | fuel + 1, c => do
    if c.isAtSeparator then faulty .separatorInQuote
    let c := c.skip isSpaceOrTab
    if isLineBreak c.here then
      let (b, c) := c.takeBreak
      let (breaks, c) ← takeQuotedBreaks fuel c
      return (b ++ breaks, c)
    else return ([], c)

/-- A stretch of spaces inside a quoted scalar; one that holds a line break is folded. -/
def takeQuotedSpaces (c : Cursor) : Result (List Char × Cursor) := do
  let (spaces, c) := c.span isSpaceOrTab
  if c.here = nul then faulty .unclosedQuote
  else if isLineBreak c.here then
    let (b, c) := c.takeBreak
    let (breaks, c) ← takeQuotedBreaks (c.rest.length + 1) c
    if b != ['\n'] then return (b ++ breaks, c)
    else if breaks.isEmpty then return ([' '], c)
    else return (breaks, c)
  else return (spaces, c)

/-- The rest of a quoted scalar; `quote` is the mark that ends it. -/
def takeQuotedRest (quote : Char) : (fuel : Nat) → Cursor → Result (List Char × Cursor)
  | 0, _ => faulty .unclosedQuote
  | fuel + 1, c => do
    let goOn (cs : List Char) (c : Cursor) : Result (List Char × Cursor) := do
      let (rest, c) ← takeQuotedRest quote fuel c
      return (cs ++ rest, c)
    let double := quote = '"'
    let d := c.here
    if d = quote then
      if !double && c.peek 1 = quote then goOn [quote] (c.forward 2) else return ([], c.next)
    else if isWordEnd d then
      let (cs, c) ← takeQuotedSpaces c
      goOn cs c
    else if double && d = '\\' then
      let e := c.peek 1
      match escape? e, escapeWidth? e with
      | some f, _ => goOn [f] (c.forward 2)
      | none, some width =>
        let (f, c) ← takeNumbered width (c.forward 2)
        goOn [f] c
      | none, none =>
        if isLineBreak e then
          let c := c.next.takeBreak.2
          let (breaks, c) ← takeQuotedBreaks (c.rest.length + 1) c
          goOn breaks c
        else faulty .escape
    else goOn [d] c.next

/-- A quoted scalar. -/
def takeQuoted (c : Cursor) : Result (String × Cursor) := do
  let (cs, c) ← takeQuotedRest c.here (c.rest.length + 1) c.next
  return (String.ofList cs, c)

/-! ### Plain scalars -/

/-- Whether a plain scalar ends at the character `k` places further on. -/
def endsPlain (inFlow : Bool) (c : Cursor) (k : Nat) : Bool :=
  let d := c.peek k
  isWordEnd d
    || (d = ':' && (isWordEnd (c.peek (k + 1)) || (inFlow && c.peek (k + 1) ∈ ",[]\x7b\x7d".toList)))
    || (inFlow && d ∈ ",?[]\x7b\x7d".toList)

/-- The length of a stretch of a plain scalar without blanks. -/
def plainLength (inFlow : Bool) (c : Cursor) : (fuel k : Nat) → Nat
  | 0, k => k
  | fuel + 1, k => if endsPlain inFlow c k then k else plainLength inFlow c fuel (k + 1)

/-- The empty lines between two lines of a plain scalar; nothing if a mark between documents
follows. -/
def takePlainBreaks : (fuel : Nat) → Cursor → Option (List Char) × Cursor
  | 0, c => (some [], c)
  | fuel + 1, c =>
    if c.here = ' ' then takePlainBreaks fuel c.next
    else if isLineBreak c.here then
      let (b, c) := c.takeBreak
      if c.isAtSeparator then (none, c)
      else
        let (breaks, c) := takePlainBreaks fuel c
        (breaks.map (b ++ ·), c)
    else (some [], c)

/-- The spaces behind a stretch of a plain scalar as they count if the scalar goes on, the place
behind them, and whether a line ended. -/
def takePlainSpaces (c : Cursor) : (List Char × Cursor) × Bool :=
  let (spaces, c) := c.span (· = ' ')
  if isLineBreak c.here then
    let (b, c) := c.takeBreak
    if c.isAtSeparator then (([], c), true)
    else
      match takePlainBreaks (c.rest.length + 1) c with
      | (none, c) => (([], c), true)
      | (some breaks, c) =>
        if b != ['\n'] then ((b ++ breaks, c), true)
        else if breaks.isEmpty then (([' '], c), true)
        else ((breaks, c), true)
  else ((spaces, c), false)

/-- The rest of a plain scalar: its text, the place behind the spaces that follow it, and whether a
line ended since its last character. `spaces` stand in front of the next stretch. -/
def takePlainRest (inFlow : Bool) (indent : Int) :
    (fuel : Nat) → (spaces : List Char) → (broken : Bool) → Cursor → (List Char × Cursor) × Bool
  | 0, _, broken, c => (([], c), broken)
  | fuel + 1, spaces, broken, c =>
    let length := if c.here = '#' then 0 else plainLength inFlow c c.rest.length 0
    if length = 0 then (([], c), broken)
    else
      let stretch := c.rest.take length
      let ((after, c), broken) := takePlainSpaces (c.forward length)
      if after.isEmpty || c.here = '#' || (!inFlow && (c.column : Int) < indent) then
        ((spaces ++ stretch, c), broken)
      else
        let ((rest, c), broken) := takePlainRest inFlow indent fuel after broken c
        ((spaces ++ stretch ++ rest, c), broken)

/-- A stretch of a plain scalar without blanks in front of a prompt. A colon in front of a mark of a
flow collection is refused inside one. -/
def takeTabbedStretch (inFlow : Bool) : (fuel : Nat) → Cursor → Result (List Char × Cursor)
  | 0, c => .ok ([], c)
  | fuel + 1, c => do
    let d := c.here
    if isWordEnd d then return ([], c)
    if inFlow && d = ':' && c.peek 1 ∈ ",?[]\x7b\x7d".toList then faulty .misplacedValue
    if (d = ':' && isWordEnd (c.peek 1)) || (inFlow && d ∈ ",[]\x7b\x7d".toList) then return ([], c)
    let (rest, c) ← takeTabbedStretch inFlow fuel c.next
    return (d :: rest, c)

/-- The blanks and empty lines behind the first line break that follows a stretch. No tab may stand
where the indentation is missing. -/
def takeTabbedBreaks (indent : Int) : (fuel : Nat) → Cursor → Result (List Char × Cursor)
  | 0, c => .ok ([], c)
  | fuel + 1, c => do
    if c.here = '\t' && (c.column : Int) < indent then faulty .tab
    if isSpaceOrTab c.here then takeTabbedBreaks indent fuel c.next
    else if isLineBreak c.here then
      let (b, c) := c.takeBreak
      let (breaks, c) ← takeTabbedBreaks indent fuel c
      return (b ++ breaks, c)
    else return ([], c)

/-- The blanks behind a stretch as they count if the scalar goes on, the place behind them, and
whether a line ended. -/
def takeTabbedBlanks (indent : Int) (c : Cursor) : Result ((List Char × Cursor) × Bool) := do
  let (spaces, c) := c.span isSpaceOrTab
  if isLineBreak c.here then
    let (b, c) := c.takeBreak
    let (breaks, c) ← takeTabbedBreaks indent c.rest.length c
    let joint :=
      if b != ['\n'] then b ++ breaks else if breaks.isEmpty then [' '] else breaks
    return ((joint, c), true)
  else return ((spaces, c), false)

/-- The rest of a plain scalar in front of a prompt, as `takePlainRest` gives it. -/
def takeTabbedPlainRest (inFlow : Bool) (indent : Int) :
    (fuel : Nat) → (blanks : List Char) → (broken : Bool) → Cursor →
    Result ((List Char × Cursor) × Bool)
  | 0, _, broken, c => .ok (([], c), broken)
  | fuel + 1, blanks, broken, c => do
    if (c.column = 0 && c.isAtSeparator) || c.here = '#' then return (([], c), broken)
    let (stretch, c) ← takeTabbedStretch inFlow c.rest.length c
    if stretch.isEmpty then return (([], c), broken)
    let text := blanks ++ stretch
    if !isSpaceOrTab c.here && !isLineBreak c.here then return ((text, c), false)
    let ((blanks, c), broken) ← takeTabbedBlanks indent c
    if !inFlow && (c.column : Int) < indent then return ((text, c), broken)
    let ((rest, c), broken) ← takeTabbedPlainRest inFlow indent fuel blanks broken c
    return ((text ++ rest, c), broken)

/-- A plain scalar; `indent` is the indentation of the collection around it. The last part says
whether a line ended behind it. -/
def takePlain (inFlow : Bool) (indent : Int) (c : Cursor) : Result ((String × Cursor) × Bool) := do
  let fuel := c.rest.length + 1
  let ((cs, c), broken) ←
    if c.isTabbed then takeTabbedPlainRest inFlow (indent + 1) fuel [] false c
    else pure (takePlainRest inFlow (indent + 1) fuel [] false c)
  return ((String.ofList cs, c), broken)

end Switchboard.Yaml
