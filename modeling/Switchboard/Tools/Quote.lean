import Switchboard.Tools.Escape

/-!
Texts in quotes: in complaints, and as words that a shell reads back.
-/
namespace Switchboard.Tools.Quote

/-- The letter that stands for a control behind a backslash. -/
def controlLetter? (c : Char) : Option Char :=
  ['a', 'b', 't', 'n', 'v', 'f', 'r'].find? fun letter => letterByte? letter = some c

/-- A control, or a byte that is no character, behind a backslash. -/
def escaped (c : Char) : Octets :=
  match controlLetter? c with
  | some letter => ['\\', letter]
  | none =>
    let n := c.toNat
    '\\' :: [n / 64, n / 8 % 8, n % 8].map fun d => Text.hexDigit d

/-- Whether a byte is shown as it is; `isText` says that the bytes beyond U+007F make characters. -/
def isShown (isText : Bool) (c : Char) : Bool :=
  ' ' ≤ c && c != '\x7f' && (isText || c < '\x80')

/-- A text between a pair of quotes, of which the second is escaped inside. -/
def inComplaint (o : Octets) : Octets :=
  let isText := (Text.Utf8.decode? (Octets.bytes o)).isSome
  let close := Octets.ofText "’"
  let rec body : (passed : Nat) → Octets → Octets
    | _, [] => []
    | passed + 1, c :: rest => c :: body passed rest
    | 0, c :: rest =>
      if isText && Text.startsWith close (c :: rest) then '\\' :: c :: body 2 rest
      else if c = '\\' then '\\' :: '\\' :: body 0 rest
      else if isShown isText c then c :: body 0 rest
      else escaped c ++ body 0 rest
  Octets.ofText "‘" ++ body 0 o ++ close

/-- The marks that mean nothing to a shell, or mean something only in front or alone. -/
def plainMarks : List Char := "%+,-./:@_]{}#~".toList

/-- Whether a byte means nothing to a shell. -/
def isPlain (c : Char) : Bool :=
  Text.isLetter c || Text.isDigit c || c ∈ plainMarks || '\x80' ≤ c

/-- Runs of bytes in single quotes, with controls and single quotes put between them. -/
def runs (quoted : Bool) : Octets → Octets
  | [] => if quoted then ['\x27'] else []
  | c :: rest =>
    let start : Octets := if quoted then [] else ['\x27']
    if c = '\x27' then start ++ "'\\''".toList ++ runs true rest
    else if c < ' ' || c = '\x7f' then
      (if quoted then ['\x27'] else []) ++ "$'".toList ++ escaped c ++ ['\x27'] ++ runs false rest
    else start ++ c :: runs true rest

/-- A text as a word that a shell reads back. -/
def asWord (o : Octets) : Octets :=
  let special := match o with
    | [] => true
    | ['{'] | ['}'] => true
    | c :: rest => c = '#' || c = '~' || !(c :: rest).all isPlain
  let hasControl := o.any fun c => c < ' ' || c = '\x7f'
  if !special then o
  else if '\x27' ∈ o && o.all fun c => c = '\x27' || c = ' ' || isPlain c then ['"'] ++ o ++ ['"']
  else if hasControl then
    (match o with
      | c :: _ => if c < ' ' || c = '\x7f' then "''".toList else []
      | [] => []) ++ runs false o
  else ['\x27'] ++ o.flatMap (fun c => if c = '\x27' then "'\\''".toList else [c]) ++ ['\x27']

end Switchboard.Tools.Quote
