import Switchboard.Value.Literal

/-!
What templates can refer to: the input of a chain run and the outputs of the steps completed so far.

A run's two collections are referred to, not copied: a template that names `steps` yields
`Value.shared run .outputs`, which shows every output recorded up to the time it is looked at. A
`History` holds the contexts of all runs of one execution, nested ones included, by their numbers;
`History.peek` looks at a value, and `History.reveal` writes all shared collections out.
-/
namespace Switchboard

/-- The state of a chain run that templates see. -/
structure Context where
  input : Value
  outputs : List Value
  named : List (String × Value)

namespace Context

/-- A run before its first step. -/
def start (input : Value) : Context := ⟨input, [], []⟩

/-- The output recorded last. -/
def previous? (c : Context) : Option Value := c.outputs.getLast?

/-- Puts a named output in the place of an earlier one of that name, or last. -/
def setNamed (name : String) (output : Value) : List (String × Value) → List (String × Value)
  | [] => [(name, output)]
  | (n, v) :: rest =>
    if n = name then (name, output) :: rest else (n, v) :: setNamed name output rest

/-- Adds the output of a step; only a step with a name that is not empty is recorded by name. -/
def record (c : Context) (output : Value) (name : Option String) : Context :=
  let named := match name with
    | none => c.named
    | some name => if name.isEmpty then c.named else setNamed name output c.named
  { c with outputs := c.outputs ++ [output], named := named }

/-- The value of one of the two collections. -/
def ledger (c : Context) : Ledger → Value
  | .outputs => .list c.outputs
  | .named => .ofFields c.named

end Context

/-- The contexts of the runs of one execution, by number. -/
abbrev History := List Context

namespace History

/-- The context of a run. -/
def context (h : History) (run : Nat) : Context := h.getD run (.start .null)

/-- A value with a shared collection at its top opened. -/
def peek (h : History) : Value → Value
  | .shared run ledger => (h.context run).ledger ledger
  | v => v

/-- Records an output in one run. -/
def record (h : History) (run : Nat) (output : Value) (name : Option String) : History :=
  h.modify run (·.record output name)

end History

namespace Value

mutual

/-- Replaces the shared collections in a value. -/
def replaceShared (f : Nat → Ledger → Value) : Value → Value
  | .list items => .list (replaceSharedItems f items)
  | .tuple items => .tuple (replaceSharedItems f items)
  | .object members => .object (replaceSharedMembers f members)
  | .shared run ledger => f run ledger
  | v => v

/-- `replaceShared` on the items of a list. -/
def replaceSharedItems (f : Nat → Ledger → Value) : List Value → List Value
  | [] => []
  | v :: rest => replaceShared f v :: replaceSharedItems f rest

/-- `replaceShared` on the members of a mapping. -/
def replaceSharedMembers (f : Nat → Ledger → Value) : List (Key × Value) → List (Key × Value)
  | [] => []
  | (k, v) :: rest => (k, replaceShared f v) :: replaceSharedMembers f rest

end

end Value

namespace History

/-- Writes shared collections out, except inside themselves; `seen` are those being written. -/
def revealWithin (h : History) : (budget : Nat) → (seen : List (Nat × Ledger)) → Value → Value
  | 0, _, v => v
  | budget + 1, seen, v =>
    v.replaceShared fun run ledger =>
      if (run, ledger) ∈ seen then .shared run ledger
      else revealWithin h budget ((run, ledger) :: seen) ((h.context run).ledger ledger)

/-- A value with all shared collections written out. What is left of them afterwards is a collection
inside itself. Each run has two collections, so the budget suffices. -/
def reveal (h : History) (v : Value) : Value := h.revealWithin (2 * h.length + 1) [] v

end History

end Switchboard
