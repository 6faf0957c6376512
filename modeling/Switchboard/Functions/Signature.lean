import Switchboard.Failure
import Switchboard.Template.Context

/-!
Functions that answer requests, and the arguments that they are called with.

Every function gets the payload. One that also takes a second argument by its position, or any number
of arguments, gets the request as well.
-/
namespace Switchboard.Functions

/-- How an argument is passed for a parameter. -/
inductive Passing where
  | positionOnly
  | position
  | rest
  | named
  | namedRest
  deriving DecidableEq

/-- A parameter of a function. -/
structure Parameter where
  name : String
  passing : Passing
  hasDefault : Bool
  deriving DecidableEq

namespace Parameter

/-- Whether an argument can be passed for a parameter by its position. -/
def isPositional (p : Parameter) : Bool := p.passing == .positionOnly || p.passing == .position

end Parameter

/-- Whether a function with given parameters is called with the request. -/
def takesRequest (parameters : List Parameter) : Bool :=
  parameters.any (·.passing == .rest) || 2 ≤ (parameters.filter Parameter.isPositional).length

/-- Whether a function with given parameters can be called with a number of arguments by position:
there is room for all of them, and whatever gets none has a default. -/
def canTake (parameters : List Parameter) (count : Nat) : Bool :=
  let positional := parameters.filter Parameter.isPositional
  (count ≤ positional.length || parameters.any (·.passing == .rest))
    && (positional.drop count).all (·.hasDefault)
    && (parameters.filter (·.passing == .named)).all (·.hasDefault)

/-- A function. Its parameters may not be known. -/
structure Function where
  parameters : Option (List Parameter)
  body : History → List Value → Except Failure Value

namespace Function

/-- The arguments that a function is called with. -/
def arguments (f : Function) (payload request : Value) : List Value :=
  match f.parameters with
  | some parameters => if takesRequest parameters then [payload, request] else [payload]
  | none => [payload]

/-- Calls a function. -/
def call (f : Function) (h : History) (payload request : Value) : Except Failure Value :=
  f.body h (f.arguments payload request)

end Function

end Switchboard.Functions
