import Switchboard.Tools.Shell.Arithmetic
import Switchboard.Tools.Shell.Files

/-!
The command `test`, also called `[`: conditions on texts, numbers and files.

A condition is read from left to right; which arguments are operators depends on what follows them.
-/
namespace Switchboard.Tools.Shell.Condition

/-- The operators in front of one operand. -/
def unary : List String :=
  ["-r", "-w", "-x", "-e", "-f", "-d", "-c", "-b", "-p", "-u", "-g", "-k", "-s", "-t", "-z", "-n", "-h",
    "-O", "-G", "-L", "-S"]

/-- The operators between two operands. -/
def binary : List String :=
  ["=", "!=", "<", ">", "-eq", "-ne", "-ge", "-gt", "-le", "-lt", "-nt", "-ot", "-ef"]

/-- What an argument counts as. -/
inductive Token where
  | finish
  | operand
  | unary (op : String)
  | binary (op : String)
  | not
  | and
  | or
  | opening
  | closing
  deriving DecidableEq

/-- Whether an argument names an operator between two operands. -/
def isBinary (arg : Octets) : Bool := String.ofList arg ∈ binary

/-- What the first of some arguments counts as. An operator of one operand is an operand itself if
nothing follows, or if an operator between two operands does. -/
def token : List Octets → Token
  | [] => .finish
  | arg :: rest =>
    let op := String.ofList arg
    if op ∈ Condition.unary then
      match rest with
      | [] => .operand
      | next :: _ :: _ => if isBinary next then .operand else .unary op
      | [_] => .unary op
    else if op ∈ Condition.binary then .binary op
    else
      match op with
      | "!" => .not
      | "-a" => .and
      | "-o" => .or
      | "(" => if rest.isEmpty then .operand else .opening
      | ")" => .closing
      | _ => .operand

/-- Why a condition is refused. -/
abbrev Reading := Except Octets

/-- The number that an operand writes. -/
def number (arg : Octets) : Reading Int :=
  let (isNegative, body) := match arg.dropWhile Octets.isSpace with
    | '-' :: rest => (true, rest)
    | '+' :: rest => (false, rest)
    | rest => (false, rest)
  let digits := body.takeWhile Text.isDigit
  if digits.isEmpty || !((body.drop digits.length).dropWhile Octets.isSpace).isEmpty then
    .error ("Illegal number: ".toList ++ arg)
  else
    let n : Int := Text.digitsValue digits
    .ok (if isNegative then -n else n)

/-- The truth of an operator in front of an operand. -/
def testUnary (s : State) (op : String) (arg : Octets) : Reading Bool :=
  match op with
  | "-z" => .ok arg.isEmpty
  | "-n" => .ok !arg.isEmpty
  | "-t" => do
    let _ ← number arg
    return false
  | op =>
    .ok (match op, s.fileAt? arg with
      | _, none => false
      | "-e", _ | "-r", _ | "-w", _ | "-O", _ | "-G", _ => true
      | "-d", some .directory | "-x", some .directory | "-x", some (.command _) => true
      | "-f", some (.command _) | "-f", some (.plain _) | "-s", some (.command _)
      | "-s", some .directory => true
      | "-s", some (.plain data) => !data.isEmpty
      | "-c", some .device => true
      | _, _ => false)

/-- The truth of an operator between two operands. -/
def testBinary (op : String) (a b : Octets) : Reading Bool :=
  let compared (p : Int → Int → Bool) : Reading Bool := do
    let x ← number a
    let y ← number b
    return p x y
  match op with
  | "=" => .ok (a = b)
  | "!=" => .ok (a != b)
  | "<" => .ok (a < b)
  | ">" => .ok (a > b)
  | "-eq" => compared fun x y => x = y
  | "-ne" => compared fun x y => x != y
  | "-ge" => compared fun x y => x ≥ y
  | "-gt" => compared fun x y => x > y
  | "-le" => compared fun x y => x ≤ y
  | "-lt" => compared fun x y => x < y
  | _ => .ok false

/-- The truth of an operand, and the arguments from its last one on; `whole` reads a condition in
brackets. -/
def primary (s : State) (whole : List Octets → Reading (Bool × List Octets)) (t : Token)
    (args : List Octets) : Reading (Bool × List Octets) :=
  match t, args with
  | .finish, _ | _, [] => .ok (false, args)
  | .opening, _ :: rest =>
    if token rest = .closing then .ok (false, rest)
    else do
      let (b, after) ← whole rest
      match after.tail with
      | [')'] :: _ => return (b, after.tail)
      | _ => throw "closing paren expected".toList
  | .unary op, _ :: rest =>
    match rest with
    | arg :: _ => do return (← testUnary s op arg, rest)
    | [] => .error (op.toList ++ ": argument expected".toList)
  | _, a :: rest =>
    match token rest, rest with
    | .binary op, _ :: b :: more => do return (← testBinary op a b, b :: more)
    | .binary op, _ => .error (op.toList ++ ": argument expected".toList)
    | _, _ => .ok (!a.isEmpty, args)

/-- The truth of an operand with signs that negate it in front. -/
def negated (primary : Token → List Octets → Reading (Bool × List Octets)) :
    List Octets → Reading (Bool × List Octets)
  | [] => primary .finish []
  | arg :: rest =>
    if token (arg :: rest) = .not && !rest.isEmpty then do
      let (b, after) ← negated primary rest
      return (!b, after)
    else if token (arg :: rest) = .not then primary .finish (arg :: rest) |>.map fun (_, a) => (true, a)
    else primary (token (arg :: rest)) (arg :: rest)

/-- The truth of operands joined by one operator. All of them are read, whatever the first ones say. -/
def joined (joint : Token) (unit : Bool) (join : Bool → Bool → Bool)
    (part : List Octets → Reading (Bool × List Octets)) :
    (fuel : Nat) → List Octets → Reading (Bool × List Octets)
  | 0, args => part args
  | fuel + 1, args => do
    let (b, after) ← part args
    if token after.tail = joint then
      let (c, after) ← joined joint unit join part fuel (after.drop 2)
      return (join b c, after)
    else return (join b unit, after)

/-- The truth of a condition, and the arguments from its last one on. -/
def whole (s : State) : (fuel : Nat) → List Octets → Reading (Bool × List Octets)
  | 0, args => .ok (false, args)
  | fuel + 1, args =>
    let part := negated (primary s (whole s fuel))
    let conjunction := joined .and true (· && ·) part args.length
    joined .or false (· || ·) conjunction args.length args

/-- The truth of all arguments. An operator between two operands goes before all other readings. -/
def holds (s : State) (args : List Octets) : Reading Bool := do
  match args with
  | [] => return false
  | [a, op, b] =>
    if isBinary op then testBinary (String.ofList op) a b
    else if a = ['!'] then return !(← ended [op, b])
    else if a = ['('] && b = [')'] then ended [op]
    else ended args
  | ['!'] :: rest => if rest.length = 3 then return !(← holds s rest) else ended args
  | args => ended args
where
  /-- The truth of arguments that must all be used. -/
  ended (args : List Octets) : Reading Bool := do
    let (b, after) ← whole s (args.length + 1) args
    match after with
    | last :: _ :: _ =>
      throw ((if last.isEmpty then [] else last ++ ": ".toList) ++ "unexpected operator".toList)
    | _ => return b

/-- The command with its name: its status and its complaint. Called by a bracket it wants another
one behind its arguments. -/
def run (s : State) (name : Octets) (args : List Octets) : Int × Option Octets :=
  let result : Reading Bool :=
    if name = ['['] then
      if args.getLast? = some [']'] then holds s args.dropLast else .error "missing ]".toList
    else holds s args
  match result with
  | .ok true => (0, none)
  | .ok false => (1, none)
  | .error why => (2, some why)

end Switchboard.Tools.Shell.Condition
