/-!
Kinds of trouble that code can get into with what it is given.
-/
namespace Switchboard

/-- What kind of trouble there is: a value that does not fit, a state that does not allow what is
asked, nothing under a key, something of the wrong kind, nothing by a name, a number out of range, or
nothing at a position. -/
inductive Trouble where
  | argument
  | state
  | missingKey
  | kind
  | attribute
  | range
  | position
  deriving DecidableEq

end Switchboard
