import Switchboard.Schema

/-!
The table from endpoint names to handlers, with the schemas of what each takes and gives.

A `Registry` is an ordered map: a name that is registered again keeps its place.
-/
namespace Switchboard

/-- An endpoint that can be called. -/
structure Entry (H : Type) where
  name : String
  handler : H
  input : Option Schema
  output : Option Schema

/-- The endpoints that can be called, in the order of their first registration. -/
structure Registry (H : Type) where
  entries : List (Entry H)

namespace Registry

variable {H : Type}

/-- No endpoints. -/
def empty : Registry H := ⟨[]⟩

/-- Puts an entry in the place of the entry of its name, or last. -/
def put (entry : Entry H) : List (Entry H) → List (Entry H)
  | [] => [entry]
  | e :: rest => if e.name = entry.name then entry :: rest else e :: put entry rest

/-- Registers an endpoint; one of the same name is replaced. -/
def register (r : Registry H) (entry : Entry H) : Registry H := ⟨put entry r.entries⟩

/-- The endpoint of a name. -/
def lookup (r : Registry H) (name : String) : Option (Entry H) :=
  r.entries.find? fun e => e.name == name

/-- Whether there is an endpoint of a name. -/
def contains (r : Registry H) (name : String) : Bool := r.entries.any fun e => e.name == name

/-- Forgets all endpoints. -/
def clear (_ : Registry H) : Registry H := empty

/-- The names of the endpoints, in order. -/
def names (r : Registry H) : List String := r.entries.map (·.name)

/-- The number of endpoints. -/
def size (r : Registry H) : Nat := r.entries.length

end Registry

end Switchboard
