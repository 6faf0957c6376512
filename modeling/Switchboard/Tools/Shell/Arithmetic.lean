import Switchboard.Tools.Shell.State

/-!
Arithmetic of a shell: expressions over integers of 64 bits, which wrap around, with variables,
assignments, comparisons and logical operators.
-/
namespace Switchboard.Tools.Shell

/-- An operator between two numbers. -/
inductive Operator where
  | or | xor | and | equal | unequal | less | atMost | greater | atLeast | shiftLeft | shiftRight
  | add | subtract | multiply | divide | remainder
  deriving DecidableEq

/-- An arithmetic expression. -/
inductive Expression where
  | number (n : Int)
  | variable (name : Octets)
  | negative (e : Expression)
  | complement (e : Expression)
  | not (e : Expression)
  | binary (op : Operator) (a b : Expression)
  | both (a b : Expression)
  | either (a b : Expression)
  | choose (condition a b : Expression)
  | assign (name : Octets) (op : Option Operator) (e : Expression)

namespace Expression

/-- The operators between two numbers, with how tightly they bind. Those with a common start stand
with the longer one first. -/
def operators : List (String × Operator × Nat) :=
  [("==", .equal, 4), ("!=", .unequal, 4), ("<<", .shiftLeft, 6), (">>", .shiftRight, 6),
    ("<=", .atMost, 5), (">=", .atLeast, 5), ("<", .less, 5), (">", .greater, 5), ("|", .or, 1),
    ("^", .xor, 2), ("&", .and, 3), ("+", .add, 7), ("-", .subtract, 7), ("*", .multiply, 8),
    ("/", .divide, 8), ("%", .remainder, 8)]

/-- The operators that may stand in front of the equals sign of an assignment. -/
def assigning : List (String × Operator) :=
  [("<<", .shiftLeft), (">>", .shiftRight), ("|", .or), ("^", .xor), ("&", .and), ("+", .add),
    ("-", .subtract), ("*", .multiply), ("/", .divide), ("%", .remainder)]

/-- A text without blanks in front. -/
def skip (cs : Octets) : Octets := cs.dropWhile fun c => c = ' ' || c = '\t' || c = '\n'

/-- The rest behind a mark, if a text begins with it. -/
def mark? (mark : String) (cs : Octets) : Option Octets := Text.dropPrefix? mark.toList (skip cs)

/-- What follows an assignment sign, with the operator that is joined to it. -/
def assignment? (cs : Octets) : Option (Option Operator × Octets) :=
  let cs := skip cs
  match cs with
  | '=' :: '=' :: _ => none
  | '=' :: rest => some (none, rest)
  | cs => assigning.findSome? fun (mark, op) => do
    match ← Text.dropPrefix? mark.toList cs with
    | '=' :: rest => some (some op, rest)
    | _ => none

/-- The operator in front of a text. One that belongs to an assignment or is doubled is none. -/
def operator? (cs : Octets) : Option ((Operator × Nat) × Octets) :=
  let cs := skip cs
  if Text.startsWith ['|', '|'] cs || Text.startsWith ['&', '&'] cs || (assignment? cs).isSome then none
  else operators.findSome? fun (mark, op, level) => do
    some ((op, level), ← Text.dropPrefix? mark.toList cs)

/-- The number in front of a text: decimal, octal behind a zero, or hexadecimal. -/
def literal (cs : Octets) : Int × Octets :=
  let take (base : Nat) (cs : Octets) : Int × Octets :=
    let digits := cs.takeWhile fun c => ((Text.hexValue? c).filter (· < base)).isSome
    let n := digits.foldl (fun n c => base * n + (Text.hexValue? c).getD 0) 0
    (min n (Nat.pow 2 63 - 1), cs.drop digits.length)
  match cs with
  | '0' :: x :: c :: rest =>
    if (x = 'x' || x = 'X') && (Text.hexValue? c).isSome then take 16 (c :: rest) else take 8 cs
  | '0' :: _ => take 8 cs
  | _ => take 10 cs

/-- A reader of a part of an expression. -/
abbrev Reader := Octets → Except String (Expression × Octets)

/-- An operand, given the reader of whole expressions. -/
def operand (whole : Reader) : (fuel : Nat) → Reader
  | 0, _ => .error "expecting primary"
  | fuel + 1, cs =>
    match skip cs with
    | '(' :: rest => do
      let (e, rest) ← whole rest
      match mark? ")" rest with
      | some rest => return (e, rest)
      | none => throw "expecting ')'"
    | '-' :: rest => do
      let (e, rest) ← operand whole fuel rest
      return (.negative e, rest)
    | '+' :: rest => operand whole fuel rest
    | '!' :: rest => do
      if rest.head? = some '=' then throw "expecting primary"
      let (e, rest) ← operand whole fuel rest
      return (.not e, rest)
    | '~' :: rest => do
      let (e, rest) ← operand whole fuel rest
      return (.complement e, rest)
    | c :: rest =>
      if Text.isDigit c then
        let (n, rest) := literal (c :: rest)
        .ok (.number n, rest)
      else if Octets.isNameChar c then
        let name := (c :: rest).takeWhile Octets.isNameChar
        .ok (.variable name, (c :: rest).drop name.length)
      else .error "expecting primary"
    | [] => .error "expecting primary"

/-- Operands joined by operators that bind at least as tightly as a level. -/
def joined (operand : Reader) : (fuel : Nat) → (level : Nat) → Expression → Reader
  | 0, _, left, cs => .ok (left, cs)
  | fuel + 1, level, left, cs =>
    match operator? cs with
    | none => .ok (left, cs)
    | some ((op, tightness), rest) =>
      if tightness < level then .ok (left, cs)
      else do
        let (right, rest) ← operand rest
        let (right, rest) ← joined operand fuel (tightness + 1) right rest
        joined operand fuel level (.binary op left right) rest

/-- Parts joined by a logical operator. -/
def logical (part : Reader) (mark : String) (join : Expression → Expression → Expression) :
    (fuel : Nat) → Reader
  | 0, cs => part cs
  | fuel + 1, cs => do
    let (left, rest) ← part cs
    match mark? mark rest with
    | some rest =>
      let (right, rest) ← logical part mark join fuel rest
      return (join left right, rest)
    | none => return (left, rest)

/-- A whole expression: an assignment, where one may stand, or a choice, or less. -/
def whole : (fuel : Nat) → (mayAssign : Bool) → Reader
  | 0, _, _ => .error "expecting primary"
  | fuel + 1, mayAssign, cs => do
    let text := skip cs
    let name := text.takeWhile Octets.isNameChar
    let target :=
      if mayAssign && Octets.isName name then assignment? (text.drop name.length) else none
    match target with
    | some (op, rest) =>
      let (e, rest) ← whole fuel true rest
      return (.assign name op e, rest)
    | none =>
      let operand := operand (whole fuel true) cs.length.succ
      let part : Reader := fun cs => do
        let (left, rest) ← operand cs
        joined operand cs.length.succ 1 left rest
      let all := logical (logical part "&&" .both cs.length) "||" .either cs.length
      let (condition, rest) ← all cs
      match mark? "?" rest with
      | none => return (condition, rest)
      | some rest =>
        let (a, rest) ← whole fuel true rest
        match mark? ":" rest with
        | none => throw "expecting ':'"
        | some rest =>
          let (b, rest) ← whole fuel false rest
          return (.choose condition a b, rest)

/-- Reads an expression, and says whether anything follows it. -/
def read (cs : Octets) : Except String (Expression × Bool) := do
  let (e, rest) ← whole (cs.length + 1) true cs
  return (e, !(skip rest).isEmpty)

/-- A number of 64 bits. -/
def wrapped (n : Int) : Int := Int.bmod n (Nat.pow 2 64)

/-- A number whose bits come from the bits of two numbers. -/
def bitwise (f : Nat → Nat → Nat) (a b : Int) : Int :=
  wrapped (f (a % Nat.pow 2 64).toNat (b % Nat.pow 2 64).toNat)

/-- The number of a truth value. -/
def truth (b : Bool) : Int := if b then 1 else 0

/-- The value of an operator; there is none for a division by zero. -/
def apply (op : Operator) (a b : Int) : Option Int :=
  match op with
  | .or => some (bitwise (· ||| ·) a b)
  | .xor => some (bitwise (· ^^^ ·) a b)
  | .and => some (bitwise (· &&& ·) a b)
  | .equal => some (truth (a = b))
  | .unequal => some (truth (a != b))
  | .less => some (truth (a < b))
  | .atMost => some (truth (a ≤ b))
  | .greater => some (truth (a > b))
  | .atLeast => some (truth (a ≥ b))
  | .shiftLeft => some (wrapped (a * Nat.pow 2 (b % 64).toNat))
  | .shiftRight => some (Int.fdiv a (Nat.pow 2 (b % 64).toNat))
  | .add => some (wrapped (a + b))
  | .subtract => some (wrapped (a - b))
  | .multiply => some (wrapped (a * b))
  | .divide => if b = 0 then none else some (wrapped (Int.tdiv a b))
  | .remainder => if b = 0 then none else some (Int.tmod a b)

/-- The number that a text writes, with a sign and between blanks. -/
def number? (cs : Octets) : Option Int :=
  let (isNegative, body) := match cs.dropWhile Octets.isSpace with
    | '-' :: rest => (true, rest)
    | '+' :: rest => (false, rest)
    | rest => (false, rest)
  let (n, rest) := literal body
  if (body.head?.map Text.isDigit).getD false && (rest.dropWhile Octets.isSpace).isEmpty then
    some (if isNegative then -n else n)
  else none

/-- The value of an expression that `text` writes. -/
def evaluate (text : Octets) : Expression → Run Int
  | .number n => return n
  | .variable name => value name
  | .negative e => do return wrapped (-(← evaluate text e))
  | .complement e => do return -(← evaluate text e) - 1
  | .not e => do return truth ((← evaluate text e) = 0)
  | .binary op a b => do
    let x ← evaluate text a
    let y ← evaluate text b
    result op x y
  | .both a b => do
    if (← evaluate text a) = 0 then return 0
    return truth ((← evaluate text b) != 0)
  | .either a b => do
    if (← evaluate text a) != 0 then return 1
    return truth ((← evaluate text b) != 0)
  | .choose condition a b => do
    if (← evaluate text condition) != 0 then evaluate text a else evaluate text b
  | .assign name op e => do
    let x ← match op with
      | none => evaluate text e
      | some op => do
        let before ← value name
        let change ← evaluate text e
        result op before change
    Run.assign name (Octets.ofInt x)
    return x
where
  /-- The value of a variable as a number. -/
  value (name : Octets) : Run Int := do
    let written := ((← get).valueOf? name).getD []
    if written.all Octets.isSpace then return 0
    match number? written with
    | some n => return n
    | none => Run.fault ("Illegal number: ".toList ++ written) 2
  /-- The value of an operator, or a complaint. -/
  result (op : Operator) (a b : Int) : Run Int :=
    match apply op a b with
    | some n => return n
    | none => Run.fault ("arithmetic expression: division by zero: \"".toList ++ text ++ ['"']) 2

/-- The value of an expression, as it is written. What follows it is complained of only when its
value is known. -/
def evaluateText (text : Octets) : Run Int := do
  let refuse (why : String) : Run Int :=
    Run.fault ("arithmetic expression: ".toList ++ why.toList ++ ": \"".toList ++ text ++ ['"']) 2
  match read text with
  | .ok (e, more) =>
    let n ← evaluate text e
    if more then refuse "expecting EOF" else return n
  | .error why => refuse why

end Expression

end Switchboard.Tools.Shell
