import Switchboard.Value
import Switchboard.Decimal.Binary

/-!
Values as numbers: integers and doubles compared by their exact values.
-/
namespace Switchboard

/-- A place on the number line, infinities included. -/
inductive Magnitude where
  | below
  | finite (num : Int) (den : Nat)
  | above
  deriving DecidableEq

namespace Magnitude

/-- The place of a double; the undefined number has none. -/
def ofFloat? (x : Float) : Option Magnitude :=
  match Decimal.toQuotient? x with
  | some (num, den) => some (.finite num den)
  | none =>
    if x.toBits.toNat % Nat.pow 2 52 != 0 then none
    else some (if Decimal.isNegative x then .below else .above)

/-- Whether one place lies left of another. -/
def isLess : Magnitude → Magnitude → Bool
  | .below, .below => false
  | .below, _ => true
  | .finite _ _, .below => false
  | .finite a b, .finite c d => a * d < c * b
  | .finite _ _, .above => true
  | .above, _ => false

end Magnitude

namespace Value

/-- The place of a number; truth values are no numbers. -/
def magnitude? : Value → Option Magnitude
  | .int i => some (.finite i 1)
  | .float x => Magnitude.ofFloat? x
  | _ => none

/-- Whether a value is a number, be it the undefined one. -/
def isNumber : Value → Bool
  | .int _ | .float _ => true
  | _ => false

/-- Whether one number is less than another. -/
def isLess (a b : Value) : Bool :=
  match a.magnitude?, b.magnitude? with
  | some x, some y => x.isLess y
  | _, _ => false

/-- Whether one number is at most another. -/
def isAtMost (a b : Value) : Bool :=
  match a.magnitude?, b.magnitude? with
  | some x, some y => !y.isLess x
  | _, _ => false

/-- Whether two numbers are the same. -/
def isSameNumber (a b : Value) : Bool := a.isAtMost b && b.isAtMost a

/-- Whether a value is a whole number. -/
def isWhole : Value → Bool
  | .int _ => true
  | .float x => (Decimal.toInt? x).isSome
  | _ => false

end Value

end Switchboard
