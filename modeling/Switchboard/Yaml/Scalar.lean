import Switchboard.Trouble
import Switchboard.Value.Literal
import Switchboard.Text.Numeral
import Switchboard.Text.Case
import Switchboard.Yaml.Cursor

/-!
What a plain YAML scalar stands for.

`Scalar.classify` decides by its form alone whether a plain text is a null, a truth value, a number,
a point in time or one of two special words; any other text stands for itself. `Scalar.read` gives
the value. Both the reader and the writer rest on it: the writer quotes exactly the texts that would
not be read back as texts.
-/
namespace Switchboard.Yaml

/-- The form of a plain scalar. -/
inductive Form where
  | null
  | bool
  | int
  | float
  | moment
  | merge
  | equals
  | reserved
  | text
  deriving DecidableEq

/-- A digit or a low line. -/
def isDigitOrLine (c : Char) : Bool := Text.isDigit c || c = '_'

/-- A text without one sign at its start. -/
def unsigned (cs : List Char) : List Char :=
  match cs with
  | '-' :: rest => rest
  | '+' :: rest => rest
  | _ => cs

/-- A digit, then digits and low lines. -/
def isDigits : List Char → Bool
  | c :: rest => Text.isDigit c && rest.all isDigitOrLine
  | [] => false

/-- One or two digits, the first of two below six. -/
def isSixty : List Char → Bool
  | [c] => Text.isDigit c
  | [c, d] => '0' ≤ c && c ≤ '5' && Text.isDigit d
  | _ => false

/-- Whether a text writes an integer: decimal, octal behind a zero, binary behind `0b`, hexadecimal
behind `0x`, or base sixty with colons. -/
def isInt (cs : List Char) : Bool :=
  match unsigned cs with
  | '0' :: 'b' :: digits => !digits.isEmpty && digits.all fun c => c = '0' || c = '1' || c = '_'
  | '0' :: 'x' :: digits =>
    !digits.isEmpty && digits.all fun c => (Text.hexValue? c).isSome || c = '_'
  | '0' :: digits => digits.all fun c => ('0' ≤ c && c ≤ '7') || c = '_'
  | body =>
    match Text.splitOn (· = ':') body with
    | [whole] => isDigits whole
    | whole :: sixties => isDigits whole && sixties.all isSixty
    | [] => false

/-- An exponent with a sign, or nothing. -/
def isExponent : List Char → Bool
  | [] => true
  | e :: s :: digits =>
    (e = 'e' || e = 'E') && (s = '-' || s = '+') && !digits.isEmpty && digits.all Text.isDigit
  | _ => false

/-- Whether a text writes a number with a fraction. -/
def isDecimal (cs : List Char) : Bool :=
  let body := unsigned cs
  let whole := body.takeWhile isDigitOrLine
  match body.drop whole.length with
  | '.' :: rest =>
    let fraction := rest.takeWhile isDigitOrLine
    let tail := rest.drop fraction.length
    if whole.isEmpty then body.length == cs.length && isDigits fraction && isExponent tail
    else isDigits whole && isExponent tail
  | _ => false

/-- Whether a text writes a number with a fraction in base sixty. -/
def isSixtyDecimal (cs : List Char) : Bool :=
  match Text.splitOn (· = ':') (unsigned cs) with
  | whole :: sixties =>
    match sixties.getLast? with
    | some last =>
      let digits := last.takeWhile Text.isDigit
      isDigits whole && sixties.dropLast.all isSixty && isSixty digits
        && (match last.drop digits.length with
            | '.' :: rest => rest.all isDigitOrLine
            | _ => false)
    | none => false
  | [] => false

/-- Whether a text writes a number that is not an integer. -/
def isFloat (cs : List Char) : Bool :=
  isDecimal cs || isSixtyDecimal cs
    || String.ofList (unsigned cs) ∈ [".inf", ".Inf", ".INF"]
    || String.ofList cs ∈ [".nan", ".NaN", ".NAN"]

/-- The parts of a written point in time. -/
structure MomentText where
  year : List Char
  month : List Char
  day : List Char
  clock : Option (List Char × List Char × List Char)
  fraction : List Char
  zone : Option (Option (Bool × List Char × List Char))

/-- A run of at least `least` and at most `most` digits at the start of a text. The run is as long as
it can be. -/
def digitRun (least most : Nat) (cs : List Char) : Option (List Char × List Char) :=
  let run := (cs.take most).takeWhile Text.isDigit
  if run.length < least then none else some (run, cs.drop run.length)

/-- The rest behind a given character. -/
def expect (c : Char) : List Char → Option (List Char)
  | d :: rest => if c = d then some rest else none
  | [] => none

/-- The zone behind a clock: nothing, `Z`, or a signed offset; blanks may stand in front. -/
def readZone (cs : List Char) : Option (Option (Option (Bool × List Char × List Char))) :=
  match cs, cs.dropWhile isSpaceOrTab with
  | [], _ => some none
  | _, ['Z'] => some (some none)
  | _, sign :: rest => do
    if sign != '-' && sign != '+' then none
    let (hours, rest) ← digitRun 1 2 rest
    match rest with
    | [] => some (some (some (sign = '-', hours, [])))
    | ':' :: rest =>
      let (minutes, rest) ← digitRun 2 2 rest
      if rest.isEmpty then some (some (some (sign = '-', hours, minutes))) else none
    | _ => none
  | _, [] => none

/-- The parts of a point in time: a date of 4, 1 to 2 and 1 to 2 digits, and perhaps a clock behind
it. -/
def readMoment? (cs : List Char) : Option MomentText := do
  let (year, rest) ← digitRun 4 4 cs
  let rest ← expect '-' rest
  let (month, rest) ← digitRun 1 2 rest
  let rest ← expect '-' rest
  let (day, rest) ← digitRun 1 2 rest
  match rest with
  | [] => some ⟨year, month, day, none, [], none⟩
  | c :: tail =>
    let rest ←
      if c = 'T' || c = 't' then some tail
      else if isSpaceOrTab c then some (tail.dropWhile isSpaceOrTab)
      else none
    let (hour, rest) ← digitRun 1 2 rest
    let rest ← expect ':' rest
    let (minute, rest) ← digitRun 2 2 rest
    let rest ← expect ':' rest
    let (second, rest) ← digitRun 2 2 rest
    let (fraction, rest) := match rest with
      | '.' :: tail => (tail.takeWhile Text.isDigit, tail.dropWhile Text.isDigit)
      | _ => ([], rest)
    let zone ← readZone rest
    some ⟨year, month, day, some (hour, minute, second), fraction, zone⟩

/-- Whether a text has the form of a point in time: a date alone has two digits for month and day. -/
def isMoment (cs : List Char) : Bool :=
  match readMoment? cs with
  | some t => t.clock.isSome || (t.month.length = 2 && t.day.length = 2)
  | none => false

/-- The words for truth values. -/
def boolWords : List (String × Bool) :=
  [("yes", true), ("Yes", true), ("YES", true), ("no", false), ("No", false), ("NO", false),
    ("true", true), ("True", true), ("TRUE", true), ("false", false), ("False", false),
    ("FALSE", false), ("on", true), ("On", true), ("ON", true), ("off", false), ("Off", false),
    ("OFF", false)]

/-- The form of a plain scalar of one line. -/
def classifyLine (s : String) : Form :=
  let cs := s.toList
  if s ∈ ["", "~", "null", "Null", "NULL"] then .null
  else if (boolWords.lookup s).isSome then .bool
  else if isFloat cs then .float
  else if isInt cs then .int
  else if s = "<<" then .merge
  else if isMoment cs then .moment
  else if s = "=" then .equals
  else if s ∈ ["!", "&", "*"] then .reserved
  else .text

/-- The form of a plain scalar; one line break behind it does not count. -/
def classify (s : String) : Form :=
  match s.toList.reverse with
  | '\n' :: c :: rest => classifyLine (String.ofList (c :: rest).reverse)
  | ['\n'] => .text
  | _ => classifyLine s

/-- Why a scalar of a form, or with a tag, has no value. -/
inductive ScalarError where
  | badDigits (base : Nat) (text : String)
  | number (text : String)
  | tooManyDigits (digits : Nat)
  | word (text : String)
  | empty
  | noMoment
  | momentOfCollection (kind : String)
  | numberSize
  | character
  | characterSize
  | year (n : Nat)
  | month
  | day
  | hour
  | minute
  | second
  | offset (minutes : Int)
  deriving DecidableEq

/-- The kind of trouble it is. -/
def ScalarError.trouble : ScalarError → Trouble
  | .word _ => .missingKey
  | .empty => .position
  | .noMoment => .attribute
  | .momentOfCollection _ => .kind
  | .characterSize | .numberSize => .range
  | _ => .argument

/-- The message for it. -/
def ScalarError.message : ScalarError → String
  | .badDigits base text =>
    "invalid literal for int() with base " ++ toString base ++ ": "
      ++ String.ofList ((Text.quoted text).toList.take 200)
  | .number text => "could not convert string to float: " ++ Text.quoted text
  | .tooManyDigits digits => Text.Numeral.tooLongMessage digits
  | .word text => Text.quoted text
  | .empty => "string index out of range"
  | .noMoment => "'NoneType' object has no attribute 'groupdict'"
  | .momentOfCollection kind => "expected string or bytes-like object, got '" ++ kind ++ "'"
  | .numberSize => "int too large to convert to float"
  | .character => "chr() arg not in range(0x110000)"
  | .characterSize => "Python int too large to convert to C int"
  | .year n => "year " ++ toString n ++ " is out of range"
  | .month => "month must be in 1..12"
  | .day => "day is out of range for month"
  | .hour => "hour must be in 0..23"
  | .minute => "minute must be in 0..59"
  | .second => "second must be in 0..59"
  | .offset minutes =>
    "offset must be a timedelta strictly between -timedelta(hours=24) and timedelta(hours=24), not "
      ++ Moment.spanLiteral minutes ++ "."

/-- The integer that a text writes in a base. -/
def readBase (base : Nat) (cs : List Char) : Except ScalarError Int :=
  match Text.Numeral.readInt base cs with
  | .ok i => .ok i
  | .error (.tooLong digits) => .error (.tooManyDigits digits)
  | .error .malformed => .error (.badDigits base (String.ofList cs))

/-- Whether a text starts with a minus sign, and what follows a sign at its start. There is at least
one character. -/
def signed (cs : List Char) : Except ScalarError (Bool × List Char) :=
  if cs.isEmpty then .error .empty else .ok (cs.head? = some '-', unsigned cs)

/-- The value of a text in the form of an integer; low lines do not count. -/
def readInt (s : String) : Except ScalarError Int := do
  let (negative, body) ← signed (s.toList.filter (· != '_'))
  let magnitude ← match body with
    | ['0'] => pure 0
    | '0' :: 'b' :: digits => readBase 2 digits
    | '0' :: 'x' :: digits => readBase 16 digits
    | '0' :: digits => readBase 8 ('0' :: digits)
    | [] => throw .empty
    | body => do
      let parts ← (Text.splitOn (· = ':') body).mapM (readBase 10)
      pure (parts.foldl (fun n part => 60 * n + part) 0)
  return if negative then -magnitude else magnitude

/-- The double that a text writes. -/
def readDecimal (cs : List Char) : Except ScalarError Float :=
  match Text.Numeral.readFloat? cs with
  | some x => .ok x
  | none => .error (.number (String.ofList cs))

/-- A sum of parts in base sixty, formed from the last part on. -/
def sumOfSixties : (unit : Nat) → (sum : Float) → List Float → Except ScalarError Float
  | _, sum, [] => .ok sum
  | unit, sum, part :: rest =>
    match Decimal.ofInt? unit with
    | some weight => sumOfSixties (60 * unit) (sum + part * weight) rest
    | none => .error .numberSize

/-- The value of a text in the form of a number with a fraction; low lines do not count. -/
def readFloat (s : String) : Except ScalarError Float := do
  let cs := (Text.lowered s.toList).filter (· != '_')
  let (negative, body) ← signed cs
  let magnitude ←
    if body = ['.', 'i', 'n', 'f'] then pure (Decimal.infinity false)
    else if body = ['.', 'n', 'a', 'n'] then pure Decimal.notANumber
    else if ':' ∈ body then
      sumOfSixties 1 0.0 (← (Text.splitOn (· = ':') body).mapM readDecimal).reverse
    else readDecimal body
  return if negative then -magnitude else magnitude

/-- The point in time that its parts write, if they are in range. -/
def MomentText.value (t : MomentText) : Except ScalarError Moment := do
  let year := Text.digitsValue t.year
  let month := Text.digitsValue t.month
  let day := Text.digitsValue t.day
  let date : Except ScalarError Unit := do
    if year = 0 then throw (.year year)
    if month = 0 || month > 12 then throw .month
    if day = 0 || day > daysOfMonth year month then throw .day
  match t.clock with
  | none => do date; return ⟨year, month, day, none⟩
  | some (hour, minute, second) =>
    let fraction := (t.fraction.take 6) ++ List.replicate (6 - t.fraction.length) '0'
    let micros := Text.digitsValue fraction
    let offset ← match t.zone with
      | none => pure none
      | some none => pure (some (0 : Int))
      | some (some (negative, hours, minutes)) =>
        let total : Int := Text.digitsValue hours * 60 + Text.digitsValue minutes
        let signed := if negative then -total else total
        if total ≥ 1440 then throw (.offset signed)
        pure (some signed)
    date
    if Text.digitsValue hour > 23 then throw .hour
    if Text.digitsValue minute > 59 then throw .minute
    if Text.digitsValue second > 59 then throw .second
    return ⟨year, month, day, some ⟨Text.digitsValue hour, Text.digitsValue minute,
      Text.digitsValue second, micros, offset⟩⟩

/-- The value of a text in the form of a truth value. -/
def readBool (s : String) : Except ScalarError Bool :=
  let word := String.ofList (Text.lowered s.toList)
  match boolWords.lookup word with
  | some b => .ok b
  | none => .error (.word word)

/-- The value of a text in the form of a point in time. -/
def readMoment (s : String) : Except ScalarError Moment :=
  let cs := s.toList
  match readMoment? (if cs.getLast? = some '\n' then cs.dropLast else cs) with
  | some t => t.value
  | none => .error .noMoment

end Switchboard.Yaml
