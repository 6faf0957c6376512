import Switchboard.Schema.Check

/-!
JSON Schemas, and the reports on values that they do not allow.

A `Schema` is a document that the schema of schemas allows (`Schema.compile`). `Schema.reports` lists
what it does not allow in a value, ordered by the places at which the faults were found.
-/
namespace Switchboard

namespace Schema

/-- The schema of schemas, as a document to check others against. -/
def ofSchemas : Library := .ofDocument Metaschema.Draft2020.whole

/-- Whether a document is a schema, if that can be told. -/
def isSchema (source : Value) : Except Interruption Bool := (check ofSchemas true source).areEmpty

end Schema

/-- A document that is a schema. -/
structure Schema where
  source : Value
  wellFormed : Schema.isSchema source = .ok true

/-- A fault of a value: where it is, and what is wrong. -/
structure Report where
  path : String
  message : String
  deriving DecidableEq

namespace Report

/-- A fault as data. -/
def toValue (r : Report) : Value := .ofFields [("path", .str r.path), ("message", .str r.message)]

/-- A fault from data; one without a place is at the root, one without a message has an empty one. -/
def ofValue (v : Value) : Report :=
  let field (name default : String) : String :=
    match v.get? name with
    | some x => x.plain
    | none => default
  ⟨field "path" "<root>", field "message" ""⟩

/-- Faults in running text. -/
def describe (reports : List Report) : String :=
  Text.join "; " (reports.map fun r => r.path ++ ": " ++ r.message)

end Report

namespace Schema

/-- The schema that a document is, if it is one and that can be told. -/
def compile (source : Value) : Except Interruption (Option Schema) :=
  match h : isSchema source with
  | .ok true => .ok (some ⟨source, h⟩)
  | .ok false => .ok none
  | .error why => .error why

/-- Whether one place comes before another: by the first part in which they differ. -/
def isBefore : List String → List String → Bool
  | [], [] => false
  | [], _ :: _ => true
  | _ :: _, [] => false
  | a :: as, b :: bs => if a = b then isBefore as bs else a < b

/-- Puts a finding in front of the first one with a later place. -/
def insertFinding (f : Finding) : List Finding → List Finding
  | [] => [f]
  | g :: rest => if isBefore g.place f.place then g :: insertFinding f rest else f :: g :: rest

/-- Findings ordered by place; those of one place keep their order. -/
def sortFindings (fs : List Finding) : List Finding := fs.foldr insertFinding []

/-- The report on a finding. A place is written with slashes between its parts. -/
def reportOf (f : Finding) : Report :=
  let path := Text.join "/" f.place
  ⟨if path = "" then "<root>" else path, f.message⟩

/-- What a schema does not allow in a value. -/
def reports (s : Schema) (v : Value) : Except Interruption (List Report) := do
  return (sortFindings (← (check (.ofDocument s.source) false v).toList)).map reportOf

end Schema

end Switchboard
