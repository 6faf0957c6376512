import Switchboard.Schema.Interruption

/-!
What checking a value against a schema finds: places and messages, one after the other, up to the end
or to where the checking has to stop.

Findings are looked for one at a time. Whether a value is allowed is known with the first of them, and
nothing behind it is looked at.
-/
namespace Switchboard.Schema

/-- Something that a schema does not allow, and the keys and positions that lead to it. -/
structure Finding where
  place : List String
  message : String
  deriving DecidableEq

/-- The findings of a search; those behind a finding are looked for when they are asked for. -/
inductive Findings where
  | none
  | stopped (why : Interruption)
  | found (first : Finding) (others : Unit → Findings)

namespace Findings

/-- One finding, at the value itself. -/
def one (message : String) : Findings := .found ⟨[], message⟩ fun _ => .none

/-- A message if a condition is not met. -/
def demand (ok : Bool) (message : String) : Findings := if ok then .none else one message

/-- Findings, and then those of a further search. -/
def andThen : Findings → (Unit → Findings) → Findings
  | .none, next => next ()
  | .stopped why, _ => .stopped why
  | .found first others, next => .found first fun _ => (others ()).andThen next

/-- What is found for each of a list, one after the other. -/
def collect {α : Type} (check : α → Findings) : List α → Findings
  | [] => .none
  | a :: rest => (check a).andThen fun _ => collect check rest

/-- Findings of a part of a value, seen from the whole. -/
def under (part : String) : Findings → Findings
  | .none => .none
  | .stopped why => .stopped why
  | .found first others =>
    .found { first with place := part :: first.place } fun _ => (others ()).under part

/-- Whether there is nothing to report. -/
def areEmpty : Findings → Except Interruption Bool
  | .none => .ok true
  | .stopped why => .error why
  | .found _ _ => .ok false

/-- All findings, if the search comes to its end. -/
def toList : Findings → Except Interruption (List Finding)
  | .none => .ok []
  | .stopped why => .error why
  | .found first others => (others ()).toList.map (first :: ·)

/-- Findings that depend on a value which may not be had. -/
def ofResult {α : Type} (r : Except Interruption α) (next : α → Findings) : Findings :=
  match r with
  | .ok a => next a
  | .error why => .stopped why

end Findings

end Switchboard.Schema
