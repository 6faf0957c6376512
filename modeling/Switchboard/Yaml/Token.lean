import Switchboard.Yaml.Lexeme

/-!
The tokens of a YAML text.

Blocks are marked by indentation alone, so the tokens that open and close them have no text of their
own. A key of one line is known as a key only when the colon behind it is met: `Scanner.keys` holds,
for each level of brackets, the place where a key may have started, and the token that marks a key is
put in front of it afterwards.
-/
namespace Switchboard.Yaml

/-- A token. -/
inductive Token where
  | directive (d : Directive)
  | documentStart
  | documentEnd
  | sequenceStart
  | mappingStart
  | blockEnd
  | flowSequenceStart
  | flowSequenceEnd
  | flowMappingStart
  | flowMappingEnd
  | comma
  | dash
  | key
  | value
  | alias (name : String)
  | anchor (name : String)
  | tag (handle : Option String) (text : String)
  | scalar (text : String) (plain : Bool)
  deriving DecidableEq

/-- A place where a key may have started: the number of tokens before it, and whether there can be
nothing but a key. -/
structure PossibleKey where
  position : Nat
  required : Bool
  index : Nat
  line : Nat
  column : Nat

/-- The state of cutting a text into tokens. -/
structure Scanner where
  cursor : Cursor
  tokens : List Token
  level : Nat
  indent : Int
  outer : List Int
  keyAllowed : Bool
  keys : List (Nat × PossibleKey)

namespace Scanner

/-- Before the first token. -/
def start (dialect : Dialect) (cs : List Char) : Scanner :=
  ⟨.start dialect cs, [], 0, -1, [], true, []⟩

/-- Adds a token. -/
def push (s : Scanner) (t : Token) : Scanner := { s with tokens := s.tokens ++ [t] }

/-- Puts a token in front of those from a position on. -/
def insertAt (s : Scanner) (position : Nat) (t : Token) : Scanner :=
  { s with tokens := s.tokens.take position ++ t :: s.tokens.drop position }

/-- The column of the cursor as an indentation. -/
def column (s : Scanner) : Int := s.cursor.column

/-- Whether the cursor is outside all brackets. -/
def inBlock (s : Scanner) : Bool := s.level = 0

/-- Forgets the key that may have started at this level; one that had to be a key is missing its
colon. -/
def dropKey (s : Scanner) : Result Scanner :=
  match s.keys.lookup s.level with
  | some k =>
    if k.required then faulty .missingColon
    else .ok { s with keys := s.keys.filter fun (level, _) => level != s.level }
  | none => .ok s

/-- Remembers that a key may start here. -/
def saveKey (s : Scanner) : Result Scanner :=
  if s.keyAllowed then do
    let s ← s.dropKey
    let key : PossibleKey := ⟨s.tokens.length, s.inBlock && s.indent = s.column, s.cursor.index,
      s.cursor.line, s.cursor.column⟩
    return { s with keys := (s.level, key) :: s.keys }
  else .ok s

/-- The length from which on a text is too long for a key. -/
def keyLimit : Nat := 1024

/-- Forgets keys that cannot be keys any more: a key is on one line and not too long. -/
def dropStaleKeys (s : Scanner) : Result Scanner :=
  let isStale (k : PossibleKey) : Bool :=
    k.line != s.cursor.line || s.cursor.index - k.index > keyLimit
  if s.keys.any fun (_, k) => isStale k && k.required then faulty .missingColon
  else .ok { s with keys := s.keys.filter fun (_, k) => !isStale k }

/-- The tokens that close blocks indented deeper than a column, and what is left of the stack. -/
def unwind (column : Int) : (indent : Int) → List Int → List Token × Int × List Int
  | indent, [] => ([], indent, [])
  | indent, outer :: rest =>
    if indent > column then
      let (ends, indent, rest) := unwind column outer rest
      (.blockEnd :: ends, indent, rest)
    else ([], indent, outer :: rest)

/-- Closes the blocks that are indented deeper than a column. -/
def closeBlocks (column : Int) (s : Scanner) : Scanner :=
  if s.inBlock then
    let (ends, indent, outer) := unwind column s.indent s.outer
    { s with tokens := s.tokens ++ ends, indent := indent, outer := outer }
  else s

/-- Opens a block at a column deeper than the current one, with the token that marks its start put at
a position. -/
def openBlock (s : Scanner) (column : Int) (position : Nat) (t : Token) : Scanner :=
  if s.indent < column then
    { s.insertAt position t with indent := column, outer := s.indent :: s.outer }
  else s

/-- The place behind the blanks on this line. Where a key can start outside brackets a tab is no
blank. -/
def skipGap (s : Scanner) : Cursor :=
  let c := s.cursor
  let c := if c.isTabbed && c.column = 0 && c.here = '\uFEFF' then c.next else c
  if s.inBlock && s.keyAllowed then c.skipSpaces else c.skipBlanks

/-- Skips blanks, comments and line ends; a new line outside brackets may start with a key. -/
def skipToToken : (fuel : Nat) → Scanner → Scanner
  | 0, s => s
  | fuel + 1, s =>
    let c := s.skipGap.skipComment
    if isLineBreak c.here then
      skipToToken fuel
        { s with cursor := c.takeBreak.2, keyAllowed := s.keyAllowed || s.inBlock }
    else { s with cursor := c }

/-- A token of some characters after which no key can start. -/
def mark (s : Scanner) (length : Nat) (keyAllowed : Bool) (t : Token) : Scanner :=
  { s.push t with cursor := s.cursor.forward length, keyAllowed := keyAllowed }

/-- A directive, or the mark at the start or the end of a document. -/
def takeDocumentMark (s : Scanner) (length : Nat) (t : Token) : Result Scanner := do
  let s ← (s.closeBlocks (-1)).dropKey
  return s.mark length false t

/-- A directive. -/
def takeDirectiveToken (s : Scanner) : Result Scanner := do
  let s ← (s.closeBlocks (-1)).dropKey
  let (d, c) ← takeDirective s.cursor
  return { s.push (.directive d) with cursor := c, keyAllowed := false }

/-- An opening bracket. -/
def openFlow (s : Scanner) (t : Token) : Result Scanner := do
  let s ← s.saveKey
  return { s.mark 1 true t with level := s.level + 1 }

/-- A closing bracket. -/
def closeFlow (s : Scanner) (t : Token) : Result Scanner := do
  let s ← s.dropKey
  if s.inBlock then faulty .unexpected
  return { s.mark 1 false t with level := s.level - 1 }

/-- A comma between brackets. -/
def takeComma (s : Scanner) : Result Scanner := do
  let s ← s.dropKey
  return s.mark 1 true .comma

/-- A dash in front of an item. -/
def takeDash (s : Scanner) : Result Scanner := do
  if s.inBlock && !s.keyAllowed then faulty .misplacedEntry
  let s := if s.inBlock then s.openBlock s.column s.tokens.length .sequenceStart else s
  let s ← s.dropKey
  return s.mark 1 true .dash

/-- A question mark in front of a key. -/
def takeKeyMark (s : Scanner) : Result Scanner := do
  if s.inBlock && !s.keyAllowed then faulty .misplacedKey
  let s := if s.inBlock then s.openBlock s.column s.tokens.length .mappingStart else s
  let s ← s.dropKey
  return s.mark 1 s.inBlock .key

/-- A colon in front of a value. What may have been a key is one now. -/
def takeColon (s : Scanner) : Result Scanner := do
  match s.keys.lookup s.level with
  | some k =>
    let s := { s with keys := s.keys.filter fun (level, _) => level != s.level }
    let s := s.insertAt k.position .key
    let s := if s.inBlock then s.openBlock k.column k.position .mappingStart else s
    return s.mark 1 false .value
  | none =>
    if s.inBlock && !s.keyAllowed then faulty .misplacedValue
    let s := if s.inBlock then s.openBlock s.column s.tokens.length .mappingStart else s
    let s ← s.dropKey
    return s.mark 1 s.inBlock .value

/-- A token behind which the cursor stands somewhere else on the line, and which can start a key. -/
def takeKeyPart {α : Type} (s : Scanner) (take : Cursor → Result (α × Cursor)) (token : α → Token) :
    Result Scanner := do
  let s ← s.saveKey
  let (a, c) ← take s.cursor
  return { s.push (token a) with cursor := c, keyAllowed := false }

/-- A block scalar. -/
def takeBlockToken (s : Scanner) : Result Scanner := do
  let s ← s.dropKey
  let (text, c) ← takeBlock s.indent s.cursor
  return { s.push (.scalar text false) with cursor := c, keyAllowed := true }

/-- A plain scalar. -/
def takePlainToken (s : Scanner) : Result Scanner := do
  let s ← s.saveKey
  let ((text, c), broken) ← takePlain (!s.inBlock) s.indent s.cursor
  return { s.push (.scalar text true) with cursor := c, keyAllowed := broken }

/-- Whether a plain scalar can start here. -/
def startsPlain (s : Scanner) : Bool :=
  let d := s.cursor.here
  !(isWordEnd d || d ∈ "-?:,[]\x7b\x7d#&*!|>'\"%@\x60".toList)
    || (!isWordEnd (s.cursor.peek 1) && (d = '-' || (s.inBlock && (d = '?' || d = ':'))))

/-- Takes the token that starts here. -/
def takeToken (s : Scanner) : Result Scanner :=
  let d := s.cursor.here
  let standsAlone := isWordEnd (s.cursor.peek 1)
  let atMargin := s.cursor.column = 0
  if d = '%' && atMargin then s.takeDirectiveToken
  else if atMargin && s.cursor.isAtMark ['-', '-', '-'] then s.takeDocumentMark 3 .documentStart
  else if atMargin && s.cursor.isAtMark ['.', '.', '.'] then s.takeDocumentMark 3 .documentEnd
  else if d = '[' then s.openFlow .flowSequenceStart
  else if d = '{' then s.openFlow .flowMappingStart
  else if d = ']' then s.closeFlow .flowSequenceEnd
  else if d = '}' then s.closeFlow .flowMappingEnd
  else if d = ',' then s.takeComma
  else if d = '-' && standsAlone then s.takeDash
  else if d = '?' && (standsAlone || !s.inBlock) then s.takeKeyMark
  else if d = ':' && (standsAlone || !s.inBlock) then s.takeColon
  else if d = '*' then s.takeKeyPart takeAnchor .alias
  else if d = '&' then s.takeKeyPart takeAnchor .anchor
  else if d = '!' then s.takeKeyPart (takeTag !s.inBlock) fun (handle, text) => .tag handle text
  else if (d = '|' || d = '>') && s.inBlock then s.takeBlockToken
  else if d = '\x27' || d = '"' then s.takeKeyPart takeQuoted fun text => .scalar text false
  else if s.startsPlain then s.takePlainToken
  else faulty .stray

/-- The end of the text closes all blocks. -/
def finish (s : Scanner) : Result Scanner := (s.closeBlocks (-1)).dropKey

/-- The tokens of the rest of a text, and what stopped the cutting, if anything did. -/
def run : (fuel : Nat) → Scanner → List Token × Option ReadError
  | 0, s => (s.tokens, none)
  | fuel + 1, s =>
    let s := skipToToken (s.cursor.rest.length + 1) s
    match s.dropStaleKeys with
    | .error e => (s.tokens, some e)
    | .ok s =>
      let s := s.closeBlocks s.column
      if s.cursor.rest.isEmpty then
        match s.finish with
        | .error e => (s.tokens, some e)
        | .ok s => (s.tokens, none)
      else
        match s.takeToken with
        | .error e => (s.tokens, some e)
        | .ok s => run fuel s

end Scanner

/-- Whether a character may stand in a YAML text. -/
def isPrintable (c : Char) : Bool :=
  let n := c.toNat
  n = 9 || n = 10 || n = 13 || (0x20 ≤ n && n ≤ 0x7E) || n = 0x85 || (0xA0 ≤ n && n ≤ 0xFFFD)
    || 0x10000 ≤ n

/-- The tokens of a text, and what stopped the cutting, if anything did. A byte order mark in front is
no part of the text. -/
def tokens (dialect : Dialect) (cs : List Char) : List Token × Option ReadError :=
  if cs.all isPrintable then
    let start := Scanner.start dialect cs
    let start := if cs.head? = some '\uFEFF' then { start with cursor := start.cursor.next } else start
    start.run (cs.length + 1)
  else ([], some (.fault .unprintable))

end Switchboard.Yaml
