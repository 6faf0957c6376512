import Switchboard.Tools.Layout
import Switchboard.Tools.Octets
import Switchboard.Tools.Quote

/-!
The command `printf`: a format that is used again as long as there are arguments left.

It exists on its own and inside a shell, and the two differ in the escapes they know, in the
conversions they allow, in the precision of their numbers, and in the words of their complaints.
-/
namespace Switchboard.Tools.Printf

/-! ### Formats -/

/-- A width or a precision: written in the format, or taken from an argument. -/
inductive Count where
  | given (n : Nat)
  | argument

/-- A conversion of a format. -/
structure Conversion where
  flags : List Char
  width : Count
  precision : Option Count
  letter : Char

/-- An item of a format. A conversion that is not allowed takes its counts before it fails. -/
inductive Item where
  | piece (p : Piece)
  | convert (c : Conversion)
  | refuse (c : Conversion) (why : Octets)

/-- Which of the two commands runs, and how it names itself in complaints. -/
structure Dialect where
  name : Octets
  isAlone : Bool

/-- The escapes of formats. -/
def Dialect.formatEscapes (d : Dialect) : Escapes :=
  if d.isAlone then ⟨false, true, true, true, true⟩ else ⟨false, false, false, false, false⟩

/-- The escapes of arguments that are converted by the letter `b`. -/
def Dialect.argumentEscapes (d : Dialect) : Escapes :=
  if d.isAlone then ⟨true, true, true, true, true⟩ else ⟨true, true, false, false, false⟩

/-- The precision of real numbers. -/
def Dialect.precision (d : Dialect) : Precision := if d.isAlone then .extended else .double

/-- A count in front of a text, and the rest. -/
def takeCount (cs : Octets) : Count × Octets :=
  match cs with
  | '*' :: rest => (.argument, rest)
  | cs => (.given (Text.digitsValue (cs.takeWhile Text.isDigit)), cs.dropWhile Text.isDigit)

/-- Whether a conversion is allowed. Inside a shell every letter goes with every flag. -/
def Dialect.allows (d : Dialect) (c : Conversion) : Bool :=
  let isOf (letters : String) : Bool := c.letter ∈ letters.toList
  if !d.isAlone then isOf "bcsdiouxXaAeEfFgG"
  else
    isOf "csdiouxXaAeEfFgG"
      && !('#' ∈ c.flags && isOf "cdisu") && !('0' ∈ c.flags && isOf "cs")
      && !('\x27' ∈ c.flags && isOf "aAceEosxX") && !('I' ∈ c.flags && isOf "aAceEosuxX")
      && !(c.precision.isSome && c.letter = 'c')

/-- The complaint about a conversion that is not allowed. -/
def Dialect.refusal (d : Dialect) (text : Octets) : Octets :=
  '%' :: text ++ (if d.isAlone then ": invalid conversion specification"
    else ": invalid directive").toList

/-- The conversion behind a percent sign, and the number of characters that it takes. -/
def conversion (d : Dialect) (cs : Octets) : Item × Nat :=
  let rest := cs.dropWhile fun c =>
    c ∈ ['#', '-', '+', ' ', '0'] || (d.isAlone && c ∈ ['\x27', 'I'])
  let flags := cs.take (cs.length - rest.length)
  let (width, rest) := takeCount rest
  let (precision, rest) := match rest with
    | '.' :: more =>
      let (p, rest) := takeCount more
      (some p, rest)
    | rest => (none, rest)
  -- the sizes of machine words say nothing here
  let rest := if d.isAlone then rest.dropWhile (· ∈ "hlLjzt".toList) else rest
  let c : Conversion := ⟨flags, width, precision, rest.headD '%'⟩
  let count := cs.length - rest.length + 1
  let plain := cs.headD '%'
  if d.isAlone && plain ∈ ['b', 'q'] then (.convert { c with letter := plain }, 1)
  else if d.allows c then (.convert c, count)
  else if rest.isEmpty && !d.isAlone then (.refuse c "missing format character".toList, count)
  else (.refuse c (d.refusal (cs.take count)), count)

/-- The items of a format; the first `passed` characters belong to the item before. -/
def items (d : Dialect) : (passed : Nat) → Octets → List Item
  | _, [] => []
  | passed + 1, _ :: rest => items d passed rest
  | 0, '%' :: '%' :: rest => .piece (.text ['%']) :: items d 1 ('%' :: rest)
  | 0, '%' :: rest =>
    let (item, count) := conversion d rest
    item :: items d count rest
  | 0, c :: rest =>
    if c = '\\' then
      match escape? d.formatEscapes rest with
      | some (piece, count) => .piece piece :: items d count rest
      | none =>
        let more := if d.isAlone then 1 else 0
        .piece (.text (c :: rest.take more)) :: items d more rest
    else .piece (.text [c]) :: items d 0 rest

/-! ### Arguments that are numbers -/

/-- What may be wrong with an argument that should be a number. -/
inductive Trouble where
  | notNumeric
  | notAll
  | outOfRange
  | ignored (rest : Octets)

/-- The complaint about an argument. -/
def Dialect.complaint (d : Dialect) (argument : Octets) (t : Trouble) : Octets :=
  let shown := if d.isAlone then Quote.inComplaint argument else argument
  d.name ++ (match t with
    | .notNumeric =>
      ": ".toList ++ shown
        ++ (if d.isAlone then ": expected a numeric value" else ": expected numeric value").toList
    | .notAll =>
      ": ".toList ++ shown
        ++ (if d.isAlone then ": value not completely converted" else ": not completely converted").toList
    | .outOfRange => ": ".toList ++ shown ++ ": Numerical result out of range".toList
    | .ignored rest =>
      ": warning: ".toList ++ rest
        ++ ": character(s) following character constant have been ignored".toList) ++ ['\n']

/-- Whether an argument fails the command. -/
def Trouble.isError : Trouble → Bool
  | .ignored _ => false
  | _ => true

/-- A number with what is wrong with it. -/
structure Numeric (α : Type) where
  value : α
  trouble : Option Trouble

/-- The number of a character behind a quote. Inside a shell that is a byte. -/
def Dialect.character? (d : Dialect) (argument : Octets) : Option (Numeric Nat) :=
  match argument with
  | q :: c :: rest =>
    if q != '"' && q != '\x27' then none
    else if !d.isAlone then some ⟨c.toNat, none⟩
    else
      let (n, rest) := match Text.Utf8.sequence (UInt8.ofNat c.toNat) (Octets.bytes rest) with
        | (some wide, more) => (wide.toNat, rest.drop more)
        | (none, _) => (c.toNat, rest)
      some ⟨n, if rest.isEmpty then none else some (.ignored rest)⟩
  | [q] => if !d.isAlone && (q = '"' || q = '\x27') then some ⟨0, none⟩ else none
  | [] => none

/-- The integer in front of an argument, behind blanks: decimal, octal behind a zero, or hexadecimal.
Also its sign, and the rest. -/
def takeInteger? (argument : Octets) : Option (Bool × Nat × Octets) :=
  let (negative, cs) := match argument.dropWhile Octets.isSpace with
    | '-' :: rest => (true, rest)
    | '+' :: rest => (false, rest)
    | rest => (false, rest)
  let isOf (base : Nat) (c : Char) : Bool := ((Text.hexValue? c).filter (· < base)).isSome
  let take (base : Nat) (cs : Octets) : Option (Bool × Nat × Octets) :=
    let digits := cs.takeWhile (isOf base)
    if digits.isEmpty then none
    else some (negative, valueOf base digits, cs.drop digits.length)
  match cs with
  | '0' :: x :: c :: rest =>
    if (x = 'x' || x = 'X') && isOf 16 c then take 16 (c :: rest) else take 8 cs
  | '0' :: _ => take 8 cs
  | _ => take 10 cs

/-- An argument as an integer that lies in a range; a negative number may wrap around. -/
def Dialect.integer (d : Dialect) (isSigned : Bool) (argument : Octets) : Numeric Int :=
  match d.character? argument with
  | some n => ⟨n.value, n.trouble⟩
  | none =>
    match takeInteger? argument with
    | none => ⟨0, if argument.isEmpty then none else some .notNumeric⟩
    | some (negative, n, rest) =>
      let largest : Nat :=
        if !isSigned then Nat.pow 2 64 - 1 else if negative then Nat.pow 2 63 else Nat.pow 2 63 - 1
      let value : Int :=
        if n > largest then if isSigned && negative then -(largest : Int) else largest
        else if !negative then n
        else if isSigned then -(n : Int) else ((Nat.pow 2 64 - n) % Nat.pow 2 64 : Nat)
      ⟨value, if !rest.isEmpty then some .notAll else if n > largest then some .outOfRange else none⟩

/-- An argument as a real number: its sign and its size. -/
def Dialect.real (d : Dialect) (argument : Octets) : Numeric (Bool × Magnitude) :=
  match d.character? argument with
  | some n => ⟨(false, .finite n.value 0), n.trouble⟩
  | none =>
    match Real.read? d.precision argument with
    | none => ⟨(false, .finite 0 0), if argument.isEmpty then none else some .notNumeric⟩
    | some r =>
      ⟨(r.negative, r.size),
        if !r.rest.isEmpty then some .notAll else if r.outOfRange then some .outOfRange else none⟩

/-! ### Running -/

/-- How far a run has come: the arguments left, the outcome so far, and whether it is over. -/
structure Progress where
  arguments : List Octets
  outcome : Outcome
  isOver : Bool

namespace Progress

/-- Writes something. -/
def write (p : Progress) (data : Octets) : Progress :=
  { p with outcome := { p.outcome with output := p.outcome.output ++ data } }

/-- Complains about an argument. -/
def note (d : Dialect) (argument : Octets) (trouble : Option Trouble) (p : Progress) : Progress :=
  match trouble with
  | none => p
  | some t =>
    { p with outcome := { p.outcome with
        status := if t.isError then 1 else p.outcome.status
        complaints := p.outcome.complaints ++ d.complaint argument t } }

/-- Ends with a complaint. -/
def fail (d : Dialect) (why : Octets) (p : Progress) : Progress :=
  { p with
    outcome := { p.outcome with
      status := if d.isAlone then 1 else 2
      complaints := p.outcome.complaints ++ d.name ++ ": ".toList ++ why ++ ['\n'] }
    isOver := true }

/-- The next argument, empty if none is left. -/
def next (p : Progress) : Octets × Progress := (p.arguments.headD [], { p with arguments := p.arguments.tail })

/-- The value of a count. Beyond 32 bits it is refused, or wraps around inside a shell. -/
def count (d : Dialect) (role : String) (c : Count) (p : Progress) : Int × Progress :=
  match c with
  | .given n => (n, p)
  | .argument =>
    let (argument, p) := p.next
    let n := d.integer true argument
    let p := p.note d argument n.trouble
    let held := Int.bmod n.value (Nat.pow 2 32)
    if d.isAlone && held != n.value then
      (0, p.fail d ("invalid ".toList ++ role.toList ++ ": ".toList ++ Quote.inComplaint argument))
    else (held, p)

/-- Ends without a complaint. On its own the command then succeeds, whatever went wrong before. -/
def stop (d : Dialect) (p : Progress) : Progress :=
  { p with
    outcome := { p.outcome with status := if d.isAlone then 0 else p.outcome.status }
    isOver := true }

/-- Writes a piece. -/
def piece (d : Dialect) (p : Progress) : Piece → Progress
  | .text data => p.write data
  | .stop => p.stop d
  | .broken why => p.fail d (Octets.ofText why)

/-- The layout of a conversion. A width below zero puts the gap behind the value, and a precision
below zero is none. -/
def layout (d : Dialect) (c : Conversion) (p : Progress) : Layout × Progress :=
  let (width, p) := p.count d "field width" c.width
  let (precision, p) : Option Int × Progress := match c.precision with
    | none => (none, p)
    | some count =>
      let (n, p) := p.count d "precision" count
      (some n, p)
  (⟨if width < 0 then '-' :: c.flags else c.flags, width.natAbs,
    (precision.filter (0 ≤ ·)).map Int.toNat⟩, p)

/-- Converts an argument. -/
def convert (d : Dialect) (c : Conversion) (layout : Layout) (p : Progress) : Progress :=
  let hasArgument := !p.arguments.isEmpty
  let (argument, p) := p.next
  match c.letter with
  | 's' => p.write (layout.text argument)
  | 'q' => if hasArgument then p.write (Quote.asWord argument) else p
  | 'c' => p.write ({ layout with precision := none }.text [argument.headD '\x00'])
  | 'b' =>
    let (data, ending) := collect (pieces d.argumentEscapes 0 argument)
    let p := p.write (layout.text data)
    match ending with
    | .whole => p
    | .stopped => p.stop d
    | .broken why => p.fail d (Octets.ofText why)
  | letter =>
    if letter ∈ ['d', 'i'] then
      let n := d.integer true argument
      (p.note d argument n.trouble).write (layout.integer n.value)
    else if letter ∈ ['o', 'u', 'x', 'X'] then
      let n := d.integer false argument
      (p.note d argument n.trouble).write (layout.natural letter n.value.toNat)
    else
      let n := d.real argument
      (p.note d argument n.trouble).write (layout.real d.precision letter n.value.1 n.value.2)

/-- Uses one item of a format. -/
def step (d : Dialect) (p : Progress) (item : Item) : Progress :=
  if p.isOver then p
  else
    match item with
    | .piece piece => p.piece d piece
    | .convert c =>
      let (layout, p) := p.layout d c
      if p.isOver then p else p.convert d c layout
    | .refuse c why =>
      let (_, p) := p.layout d c
      if p.isOver then p else p.fail d why

end Progress

/-- A format used until no arguments are left, or none are taken. -/
def useAll (d : Dialect) (format : List Item) : (fuel : Nat) → Progress → Progress
  | 0, p => p
  | fuel + 1, p =>
    let done := format.foldl (Progress.step d) p
    if done.isOver || done.arguments.isEmpty || done.arguments.length = p.arguments.length then done
    else useAll d format fuel done

/-- Runs the command with a format. -/
def runFormat (d : Dialect) (format : Octets) (args : List Octets) : Outcome :=
  let done := useAll d (items d 0 format) (args.length + 1) ⟨args, .silent 0, false⟩
  match done.isOver, done.arguments with
  | false, extra :: _ =>
    if d.isAlone then
      let line := d.name ++ ": warning: ignoring excess arguments, starting with ".toList
        ++ Quote.inComplaint extra ++ ['\n']
      { done.outcome with complaints := done.outcome.complaints ++ line }
    else done.outcome
  | _, _ => done.outcome

/-- The command on its own. -/
def run (name : Octets) (args : List Octets) : Outcome :=
  match (if args.head? = some "--".toList then args.tail else args) with
  | [] => .failure 1 (name ++ ": missing operand\nTry '".toList ++ name
      ++ " --help' for more information.".toList)
  | format :: args => runFormat ⟨name, true⟩ format args

/-- The command inside a shell, which names itself so in complaints. -/
def inShell (name : Octets) (args : List Octets) : Outcome :=
  let usage := Outcome.failure 2 (name ++ ": usage: printf format [arg ...]".toList)
  match args with
  | [] => usage
  | format :: rest =>
    if format = "--".toList then
      match rest with
      | [] => usage
      | format :: rest => runFormat ⟨name, false⟩ format rest
    else
      match format with
      | '-' :: c :: _ => .failure 2 (name ++ ": Illegal option -".toList ++ [c])
      | _ => runFormat ⟨name, false⟩ format rest

end Switchboard.Tools.Printf
