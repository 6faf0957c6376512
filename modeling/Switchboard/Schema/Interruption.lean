import Switchboard.Regex.Fault
import Switchboard.Value.Literal

/-!
What stops the checking of a value before its end: references that lead nowhere, expressions that
cannot be read, numbers beyond reckoning, and documents in places where only schemas make sense.
-/
namespace Switchboard.Schema

/-- Why a reference leads nowhere; `within` is the document that was searched, as messages show it. -/
inductive ReferenceFault where
  | unresolvable (reference : String)
  | nowhere (pointer within : String)
  | noAnchor (name within : String)
  | badAnchor (name : String)
  deriving DecidableEq

/-- The message for it. -/
def ReferenceFault.message : ReferenceFault → String
  | .unresolvable reference => reference
  | .nowhere pointer within =>
    Text.quoted pointer ++ " does not exist within " ++ within
      ++ (if pointer = "/" then
          ". The pointer '/' is a valid JSON Pointer but it points to an empty string property ''. "
            ++ "If you intended to point to the entire resource, you should use '#'."
        else "")
  | .noAnchor name within => Text.quoted name ++ " does not exist within " ++ within
  | .badAnchor name =>
    "'#" ++ name ++ "' is not a valid anchor, neither as a plain name anchor nor as a JSON Pointer. "
      ++ "You may have intended to use '#/" ++ name
      ++ "', as the slash is required *before each segment* of a JSON pointer."

/-- What stops the checking of a value. -/
inductive Interruption where
  /-- the reference of a schema leads nowhere -/
  | unresolved (fault : ReferenceFault)
  /-- a reference leads nowhere while it is asked which parts of a value a schema looks at -/
  | astray (fault : ReferenceFault)
  /-- an expression cannot be read -/
  | pattern (fault : Regex.Fault)
  /-- something that is no text stands for an expression -/
  | patternKind
  /-- an expression is searched in something that is no text -/
  | searchedKind (kind : String)
  /-- a key that is no text stands among expressions to be joined -/
  | joinedKind (position : Nat) (kind : String)
  /-- something without members stands for a schema -/
  | noMembers (kind asked : String)
  /-- something that holds nothing stands for a schema -/
  | holdsNothing (kind : String)
  /-- bytes stand for a schema -/
  | holdsBytes
  /-- a pointer goes on behind something that has no parts -/
  | noParts (kind : String)
  /-- a pointer names a position of a list by something that is no number -/
  | badPosition (step : String)
  /-- a pointer names a position of a list by too many digits -/
  | longPosition (digits : Nat)
  /-- a type that is not known -/
  | unknownType (type schema value : String)
  /-- a quotient is no number -/
  | undefinedQuotient
  /-- an infinite number has no fraction -/
  | infiniteQuotient
  /-- an integer is too large for a double -/
  | tooLarge
  /-- schemas lead into schemas without end -/
  | tooDeep
  deriving DecidableEq

/-- The message for it. -/
def Interruption.message : Interruption → String
  | .unresolved fault => "Unresolvable: " ++ fault.message
  | .astray fault => fault.message
  | .pattern fault => fault.message
  | .patternKind => "first argument must be string or compiled pattern"
  | .searchedKind kind => "expected string or bytes-like object, got '" ++ kind ++ "'"
  | .joinedKind position kind =>
    "sequence item " ++ toString position ++ ": expected str instance, " ++ kind ++ " found"
  | .noMembers kind asked => "'" ++ kind ++ "' object has no attribute '" ++ asked ++ "'"
  | .holdsNothing kind => "argument of type '" ++ kind ++ "' is not iterable"
  | .holdsBytes => "a bytes-like object is required, not 'str'"
  | .noParts kind => "'" ++ kind ++ "' object is not subscriptable"
  | .badPosition step => "invalid literal for int() with base 10: " ++ Text.quoted step
  | .longPosition digits => Text.Numeral.tooLongMessage digits
  | .unknownType type schema value =>
    "Unknown type " ++ type ++ " for validator with schema:\n    " ++ schema
      ++ "\n\nWhile checking instance:\n    " ++ value
  | .undefinedQuotient => "cannot convert float NaN to integer"
  | .infiniteQuotient => "cannot convert Infinity to integer ratio"
  | .tooLarge => "int too large to convert to float"
  | .tooDeep => "maximum recursion depth exceeded"

end Switchboard.Schema
