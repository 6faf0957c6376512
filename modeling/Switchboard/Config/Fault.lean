import Switchboard.Value.Literal

/-!
What can be wrong with settings, and the collecting of all that is wrong with one document.

`Checked α` is either a value or the list of faults met; combining two checked values keeps the faults
of both, so that one reading reports everything.
-/
namespace Switchboard.Config

/-- One step towards a place in a document. -/
inductive Part where
  | name (s : String)
  | position (i : Int)
  deriving DecidableEq

/-- A part as text. -/
def Part.text : Part → String
  | .name s => s
  | .position i => toString i

/-- The keys under which a handler may stand, as messages list them. -/
def handlerKeys : List String := ["ai_prompt", "python_handler", "shell_query", "chain_handler"]

/-- A rule of the settings themselves that a document breaks. -/
inductive Rule where
  | oneHandler (name : Value) (present : List String)
  | knownMethod (written : String)
  | oneStepOfName (name : String)
  | onePromptSource
  | oneFunctionSource
  | oneEndpointOfName (name : String)
  | oneEndpointOfRoute (method path name : String)

/-- The message for a broken rule. -/
def Rule.message : Rule → String
  | .oneHandler name present =>
    let found := if present.isEmpty then "none" else Value.literal (.list (present.map .str))
    "Endpoint " ++ name.literal ++ " must specify exactly one handler ("
      ++ Text.join ", " handlerKeys ++ "); got " ++ found ++ "."
  | .knownMethod written => "Unsupported HTTP method " ++ Text.quoted written ++ "."
  | .oneStepOfName name => "Duplicate step name " ++ Text.quoted name ++ " in chain."
  | .onePromptSource => "ai_prompt must set exactly one of prompt or prompt_file."
  | .oneFunctionSource => "python handler must set exactly one of module or file."
  | .oneEndpointOfName name => "Duplicate endpoint name " ++ Text.quoted name ++ "."
  | .oneEndpointOfRoute method path name =>
    "Duplicate route " ++ method ++ " " ++ path ++ " (" ++ Text.quoted name ++ ")."

/-- What is wrong at a place. -/
inductive Problem where
  | missing
  | unknownField
  | notText
  | notUnicode
  | emptyText
  | notInteger
  | integerText
  | integerFraction
  | integerSize
  | notFinite
  | notNumber
  | numberText
  | notList
  | emptyList
  | notMapping
  | notRecord
  | notHandler
  | noKind
  | unknownKind
  | wrongKind
  | notPath
  | keyNotText
  | broken (rule : Rule)

/-- A problem and its place. -/
structure Fault where
  place : List Part
  problem : Problem

/-- A value, or everything that is wrong with what it was to be read from. -/
inductive Checked (α : Type) where
  | valid (a : α)
  | invalid (faults : List Fault)

namespace Checked

variable {α β : Type}

/-- The faults, none for a value. -/
def faults : Checked α → List Fault
  | .valid _ => []
  | .invalid faults => faults

/-- Applies a checked function to a checked value and keeps the faults of both. -/
def apply (f : Checked (α → β)) (a : Checked α) : Checked β :=
  match f, a with
  | .valid f, .valid a => .valid (f a)
  | f, a => .invalid (f.faults ++ a.faults)

instance : Applicative Checked where
  pure a := .valid a
  seq f a := apply f (a ())

/-- One fault at the place itself. -/
def fault (problem : Problem) : Checked α := .invalid [⟨[], problem⟩]

/-- The faults moved one level down. -/
def under (part : Part) : Checked α → Checked α
  | .valid a => .valid a
  | .invalid faults => .invalid (faults.map fun f => { f with place := part :: f.place })

/-- A further check of a value that is sound so far. -/
def andThen (a : Checked α) (next : α → Checked β) : Checked β :=
  match a with
  | .valid a => next a
  | .invalid faults => .invalid faults

/-- A value, or a broken rule. -/
def require (rule : Option Rule) (a : α) : Checked α :=
  match rule with
  | none => .valid a
  | some rule => fault (.broken rule)

/-- Checks the members of a list; the faults of all are kept. -/
def each (check : α → Checked β) : List α → Checked (List β)
  | [] => .valid []
  | a :: rest => List.cons <$> check a <*> each check rest

/-- Checks items of a list at their positions. -/
def items (check : α → Checked β) (start : Nat) : List α → Checked (List β)
  | [] => .valid []
  | a :: rest => List.cons <$> (check a).under (.position start) <*> items check (start + 1) rest

end Checked

/-- The first line of a report on a document. -/
def headline (faults : List Fault) : String :=
  let count := faults.length
  toString count ++ " validation error" ++ (if count = 1 then "" else "s") ++ " for ServerConfig"

end Switchboard.Config
