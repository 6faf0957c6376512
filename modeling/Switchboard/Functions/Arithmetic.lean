import Switchboard.Functions.Access
import Switchboard.Functions.Signature
import Switchboard.Text.Numeral

/-!
Two functions of the sample server: the sum of two numbers, and the number of words of a text.
-/
namespace Switchboard.Functions

/-- The double that a payload value gives: a number, a truth value, or a text that writes a number,
with blanks around it and low lines between digits. -/
def toNumber (v : Value) : Except Failure Float :=
  let notANumber : Failure := .raised .argument "Inputs a and b must be numbers."
  match v with
  | .float x => .ok x
  | .bool b => .ok (if b then 1.0 else 0.0)
  | .int i =>
    match Decimal.ofInt? i with
    | some x => .ok x
    | none => .error (.raised .range "int too large to convert to float")
  | .str s =>
    match Text.Numeral.readFloat? s.toList with
    | some x => .ok x
    | none => .error notANumber
  | _ => .error notANumber

/-- A number among the members of a payload. -/
def numberOf (h : History) (payload : Value) (name : String) : Except Failure Float :=
  match member h payload name with
  | .ok v => toNumber v
  | .error _ => .error (.raised .argument "Inputs a and b must be numbers.")

/-- A sum as data: an integer when it is one. -/
def sumValue (x : Float) : Value :=
  match Decimal.toInt? x with
  | some n => .int n
  | none => .float x

/-- The sum of the members `a` and `b`. -/
def sum : Function where
  parameters := some [⟨"payload", .position, false⟩]
  body h args := do
    let payload := args.headD .null
    let a ← numberOf h payload "a"
    let b ← numberOf h payload "b"
    return .ofFields [("sum", sumValue (a + b))]

/-- The number of words of the member `text`. -/
def wordCount : Function where
  parameters := some [⟨"payload", .position, false⟩]
  body h args := do
    match ← member h (args.headD .null) "text" with
    | .str s => return .ofFields [("count", .int (Text.words s.toList).length)]
    | v =>
      throw (.raised .attribute
        ("'" ++ (h.peek v).kindName ++ "' object has no attribute 'split'"))

end Switchboard.Functions
