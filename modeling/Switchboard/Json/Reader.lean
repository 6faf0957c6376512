import Switchboard.Json.Writer
import Switchboard.Text.Numeral
import Switchboard.Decimal.Binary

/-!
Reading JSON texts.

The reader walks a list of characters; a fault is located by how much of the text is left where it
was met, and `ReadError.describe` turns that into line, column and position. `parse` reads one
document with nothing but blanks around it.
-/
namespace Switchboard.Json

/-- What the reader found wrong. -/
inductive Fault where
  | value
  | name
  | colon
  | comma
  | unterminated
  | control
  | escape
  | unicodeEscape
  | extra
  | byteOrderMark
  deriving DecidableEq

/-- The words for a fault. -/
def Fault.message : Fault → String
  | .value => "Expecting value"
  | .name => "Expecting property name enclosed in double quotes"
  | .colon => "Expecting ':' delimiter"
  | .comma => "Expecting ',' delimiter"
  | .unterminated => "Unterminated string starting at"
  | .control => "Invalid control character at"
  | .escape => "Invalid \\escape"
  | .unicodeEscape => "Invalid \\uXXXX escape"
  | .extra => "Extra data"
  | .byteOrderMark => "Unexpected UTF-8 BOM (decode using utf-8-sig)"

/-- Why a text was refused: a fault, with the number of characters left at it, or an integer with
too many digits. -/
inductive ReadError where
  | fault (what : Fault) (left : Nat)
  | tooManyDigits (digits : Nat)
  deriving DecidableEq

/-- Whether the text as a whole is no JSON, as opposed to JSON with a number that is too long. -/
def ReadError.isFault : ReadError → Bool
  | .fault _ _ => true
  | .tooManyDigits _ => false

/-- The line, counted from one, of the position after `before`. -/
def lineOf (before : List Char) : Nat := before.count '\n' + 1

/-- The column, counted from one, of the position after `before`. -/
def columnOf (before : List Char) : Nat := (before.reverse.takeWhile (· != '\n')).length + 1

/-- The message for an error in `text`. -/
def ReadError.describe (text : List Char) : ReadError → String
  | .fault what left =>
    let position := text.length - left
    let before := text.take position
    what.message ++ ": line " ++ toString (lineOf before) ++ " column " ++ toString (columnOf before)
      ++ " (char " ++ toString position ++ ")"
  | .tooManyDigits digits => Text.Numeral.tooLongMessage digits

/-- The four blanks of JSON. -/
def isSpace (c : Char) : Bool := c = ' ' || c = '\t' || c = '\n' || c = '\r'

/-- Drops the blanks at the start. -/
def skip (cs : List Char) : List Char := cs.dropWhile isSpace

/-- The character that a one-letter escape stands for. -/
def simpleEscape? : Char → Option Char
  | '"' => some '"'
  | '\\' => some '\\'
  | '/' => some '/'
  | 'b' => some '\x08'
  | 'f' => some '\x0c'
  | 'n' => some '\n'
  | 'r' => some '\r'
  | 't' => some '\t'
  | _ => none

/-- The value of four hexadecimal digits. -/
def unit? (a b c d : Char) : Option Nat := do
  let w ← Text.hexValue? a
  let x ← Text.hexValue? b
  let y ← Text.hexValue? c
  let z ← Text.hexValue? d
  return ((w * 16 + x) * 16 + y) * 16 + z

/-- The first half of a pair of units. -/
def isHigh (n : Nat) : Bool := 0xD800 ≤ n && n < 0xDC00

/-- The second half of a pair of units. -/
def isLow (n : Nat) : Bool := 0xDC00 ≤ n && n < 0xE000

/-- The character that stands for half a pair on its own. -/
def replacement : Char := '\uFFFD'

/-- The character of a unit that is no half of a pair. -/
def unitChar (n : Nat) : Char := if isHigh n || isLow n then replacement else Char.ofNat n

/-- The character of a pair of units. -/
def pairChar (high low : Nat) : Char :=
  Char.ofNat (0x10000 + (high - 0xD800) * 0x400 + (low - 0xDC00))

/-- Puts a character in front of those already read. -/
def push (c : Char) (read : List Char × List Char) : List Char × List Char := (c :: read.1, read.2)

/-- The characters of a JSON string up to its closing quote, and what follows the quote. `opening` is
the number of characters left at the opening quote. A `\u` must have five characters behind it, since
a quote has to follow its four digits. -/
def readString (opening : Nat) : List Char → Except ReadError (List Char × List Char)
  | [] => .error (.fault .unterminated opening)
  | '"' :: rest => .ok ([], rest)
  | '\\' :: [] => .error (.fault .unterminated opening)
  | '\\' :: 'u' :: a :: b :: c :: d :: '\\' :: 'u' :: w :: x :: y :: z :: e :: rest =>
    match unit? a b c d, unit? w x y z with
    | none, _ => .error (.fault .unicodeEscape (rest.length + 12))
    | some high, other =>
      if isHigh high then
        match other with
        | none => .error (.fault .unicodeEscape (rest.length + 6))
        | some low =>
          if isLow low then (readString opening (e :: rest)).map (push (pairChar high low))
          else
            (readString opening ('\\' :: 'u' :: w :: x :: y :: z :: e :: rest)).map
              (push replacement)
      else
        (readString opening ('\\' :: 'u' :: w :: x :: y :: z :: e :: rest)).map
          (push (unitChar high))
  | '\\' :: 'u' :: a :: b :: c :: d :: e :: rest =>
    match unit? a b c d with
    | none => .error (.fault .unicodeEscape (rest.length + 6))
    | some n => (readString opening (e :: rest)).map (push (unitChar n))
  | '\\' :: 'u' :: rest => .error (.fault .unicodeEscape (rest.length + 1))
  | '\\' :: c :: rest =>
    match simpleEscape? c with
    | none => .error (.fault .escape (rest.length + 2))
    | some d => (readString opening rest).map (push d)
  | c :: rest =>
    if c.toNat < 0x20 then .error (.fault .control (rest.length + 1))
    else (readString opening rest).map (push c)

/-- A number as it is written: sign, integer digits, and the digits of fraction and exponent where
they are present. -/
structure Numeral where
  negative : Bool
  whole : List Char
  fraction : Option (List Char)
  exponent : Option (Bool × List Char)

/-- The fraction at the start of a text: a point with digits behind it. -/
def readFraction (cs : List Char) : Option (List Char) × List Char :=
  match cs with
  | '.' :: rest =>
    let digits := rest.takeWhile Text.isDigit
    if digits.isEmpty then (none, cs) else (some digits, rest.dropWhile Text.isDigit)
  | _ => (none, cs)

/-- The sign of an exponent, and what follows it. -/
def readSign (cs : List Char) : Bool × List Char :=
  match cs with
  | '-' :: rest => (true, rest)
  | '+' :: rest => (false, rest)
  | _ => (false, cs)

/-- The exponent at the start of a text: a letter `e`, a sign or none, and digits. -/
def readExponent (cs : List Char) : Option (Bool × List Char) × List Char :=
  match cs with
  | c :: rest =>
    if c = 'e' || c = 'E' then
      let (negative, more) := readSign rest
      let digits := more.takeWhile Text.isDigit
      if digits.isEmpty then (none, cs) else (some (negative, digits), more.dropWhile Text.isDigit)
    else (none, cs)
  | [] => (none, cs)

/-- The numeral at the start of a text. An integer part of several digits does not start with zero:
after a leading zero the numeral ends. -/
def readNumeral? (cs : List Char) : Option (Numeral × List Char) :=
  let (negative, body) := match cs with
    | '-' :: rest => (true, rest)
    | _ => (false, cs)
  let whole := match body with
    | '0' :: _ => ['0']
    | _ => body.takeWhile Text.isDigit
  if whole.isEmpty then none
  else
    let (fraction, afterFraction) := readFraction (body.drop whole.length)
    let (exponent, rest) := readExponent afterFraction
    some (⟨negative, whole, fraction, exponent⟩, rest)

/-- The value of a numeral: an integer without fraction and exponent, otherwise the nearest double. -/
def Numeral.value (n : Numeral) : Except ReadError Value :=
  match n.fraction, n.exponent with
  | none, none =>
    if n.whole.length > maxDigits then .error (.tooManyDigits n.whole.length)
    else
      let magnitude : Int := Text.digitsValue n.whole
      .ok (.int (if n.negative then -magnitude else magnitude))
  | fraction, exponent =>
    let decimals := fraction.getD []
    let shift : Int := match exponent with
      | none => 0
      | some (negative, digits) =>
        let e : Int := Text.digitsValue digits
        if negative then -e else e
    .ok (.float (Decimal.ofDecimal n.negative (Text.digitsValue (n.whole ++ decimals))
      (shift - decimals.length)))

/-- The literals that are not numerals, strings or brackets. -/
def literals : List (String × Value) :=
  [("null", .null), ("true", .bool true), ("false", .bool false), ("NaN", .float Decimal.notANumber),
    ("Infinity", .float (Decimal.infinity false)), ("-Infinity", .float (Decimal.infinity true))]

/-- The literal at the start of a text. -/
def readLiteral? (cs : List Char) : Option (Value × List Char) :=
  literals.findSome? fun (word, v) => (Text.dropPrefix? word.toList cs).map fun rest => (v, rest)

/-- A literal or a number at the start of a text. -/
def readScalar (cs : List Char) : Except ReadError (Value × List Char) :=
  match readLiteral? cs with
  | some found => .ok found
  | none =>
    match readNumeral? cs with
    | some (n, rest) => n.value.map fun v => (v, rest)
    | none => .error (.fault .value cs.length)

mutual

/-- The value at the start of a text. -/
def readValue : (fuel : Nat) → List Char → Except ReadError (Value × List Char)
  | 0, cs => .error (.fault .value cs.length)
  | fuel + 1, cs =>
    match cs with
    | '"' :: rest => (readString cs.length rest).map fun (s, r) => (.str (String.ofList s), r)
    | '[' :: rest =>
      match skip rest with
      | ']' :: r => .ok (.list [], r)
      | r => (readItems fuel r).map fun (items, r) => (.list items, r)
    | '{' :: rest =>
      match skip rest with
      | '}' :: r => .ok (.object [], r)
      | r => (readMembers fuel r).map fun (members, r) => (.object (Members.ofList members), r)
    | _ => readScalar cs

/-- The items of a list up to its closing bracket. -/
def readItems : (fuel : Nat) → List Char → Except ReadError (List Value × List Char)
  | 0, cs => .error (.fault .value cs.length)
  | fuel + 1, cs => do
    let (first, after) ← readValue fuel cs
    match skip after with
    | ']' :: rest => return ([first], rest)
    | ',' :: rest =>
      let (others, r) ← readItems fuel (skip rest)
      return (first :: others, r)
    | other => .error (.fault .comma other.length)

/-- The members of an object up to its closing brace. -/
def readMembers : (fuel : Nat) → List Char → Except ReadError (List (Key × Value) × List Char)
  | 0, cs => .error (.fault .value cs.length)
  | fuel + 1, cs => do
    match cs with
    | '"' :: rest =>
      let (name, afterName) ← readString cs.length rest
      match skip afterName with
      | ':' :: afterColon =>
        let (first, after) ← readValue fuel (skip afterColon)
        match skip after with
        | '}' :: rest => return ([(.text (String.ofList name), first)], rest)
        | ',' :: rest =>
          let (others, r) ← readMembers fuel (skip rest)
          return ((.text (String.ofList name), first) :: others, r)
        | other => .error (.fault .comma other.length)
      | other => .error (.fault .colon other.length)
    | other => .error (.fault .name other.length)

end

/-- Enough fuel for any text: every value takes a character, and every list or object one more step. -/
def fuelFor (cs : List Char) : Nat := 2 * cs.length + 2

/-- The one document that a text holds. -/
def parse (cs : List Char) : Except ReadError Value :=
  match cs with
  | '\uFEFF' :: _ => .error (.fault .byteOrderMark cs.length)
  | _ => do
    let (v, rest) ← readValue (fuelFor cs) (skip cs)
    match skip rest with
    | [] => return v
    | extra => .error (.fault .extra extra.length)

end Switchboard.Json
