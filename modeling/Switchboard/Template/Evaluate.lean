import Switchboard.Template.Path
import Switchboard.Template.Context

/-!
The values of templates.

`evaluate` walks one path; `compile` takes a template of any shape and replaces each text that is
one whole expression by the value of its path, keeping everything else as it is.
-/
namespace Switchboard.Template

/-- The value at a root, for the run `run` of a history. -/
def rootValue (h : History) (run : Nat) (path : Path) : Except Error Value :=
  match path.root with
  | .input => .ok (h.context run).input
  | .steps => .ok (.shared run .outputs)
  | .stepsByName => .ok (.shared run .named)
  | .previousStep =>
    match (h.context run).previous? with
    | some output => .ok output
    | none => .error (.unresolved path.text .noPreviousStep)

/-- A walked part of a path as messages name it. -/
def place (explicitRoot : Option Root) (walked : List Segment) : String :=
  let steps (segments : List Segment) : String := String.join (segments.map Segment.written)
  match explicitRoot, walked with
  | some root, walked => root.word ++ steps walked
  | none, [] => Root.stepsByName.word
  | none, .name key :: rest => key ++ steps rest
  | none, .index n :: rest => steps (.index n :: rest)

/-- A segment as a position in a list: an index, or a name made of ASCII digits. -/
def position? : Segment → Except Error (Option Nat)
  | .index n => .ok (some n)
  | .name key =>
    if !key.isEmpty && key.toList.all Text.isDigit then (readIndex key.toList).map some
    else .ok none

/-- One step into a value. `path` is the whole path and `here` names the value stepped into. -/
def step (h : History) (path here : String) (current : Value) (segment : Segment) :
    Except Error Value :=
  match h.peek current with
  | .null => .error (.unresolved path (.isNull here))
  | .object members =>
    match Members.get? (.text segment.text) members with
    | some v => .ok v
    | none =>
      .error (.unresolved path (.noProperty segment.text here (members.map fun (k, _) => k.plain)))
  | .list items | .tuple items => do
    match (← position? segment).bind (items[·]?) with
    | some v => return v
    | none =>
      throw (.unresolved path (.noProperty segment.text here
        ((List.range items.length).map toString)))
  | v => .error (.unresolved path (.notContainer here v.kindName))

/-- Walks the segments from a value; `walked` are those before. -/
def walk (h : History) (path : Path) (walked : List Segment) (current : Value) :
    List Segment → Except Error Value
  | [] => .ok current
  | segment :: rest => do
    let here := place (if path.explicitRoot then some path.root else none) walked
    let next ← step h path.text here current segment
    walk h path (walked ++ [segment]) next rest

/-- The value of an expression in a run. -/
def evaluate (h : History) (run : Nat) (expression : String) : Except Error Value := do
  let path ← Path.parse expression
  let start ← rootValue h run path
  walk h path [] start path.segments

/-- Whether a text is one whole expression: double braces around at least one character, none of them
a brace, with at most one line break behind. -/
def isWhole (cs : List Char) : Bool :=
  match Text.dropPrefix? opening cs with
  | none => false
  | some rest =>
    let body := rest.takeWhile fun c => c != '{' && c != '}'
    let tail := rest.drop body.length
    !body.isEmpty && (tail == closing || tail == closing ++ ['\n'])

/-- The value of a text in a template. -/
def compileText (h : History) (run : Nat) (s : String) : Except Error Value :=
  if isWhole s.toList then evaluate h run s
  else if Text.contains opening s.toList then .error (.embedded s)
  else .ok (.str s)

mutual

/-- The value of a template. -/
def compile (h : History) (run : Nat) : Value → Except Error Value
  | .str s => compileText h run s
  | .list items | .tuple items => (compileItems h run items).map .list
  | .object members => (compileMembers h run members).map .object
  | v => .ok v

/-- `compile` on the items of a list, in order. -/
def compileItems (h : History) (run : Nat) : List Value → Except Error (List Value)
  | [] => .ok []
  | v :: rest => do
    let first ← compile h run v
    return first :: (← compileItems h run rest)

/-- `compile` on the members of a mapping, in order; keys are never expressions. -/
def compileMembers (h : History) (run : Nat) :
    List (Key × Value) → Except Error (List (Key × Value))
  | [] => .ok []
  | (k, v) :: rest => do
    let first ← compile h run v
    return (k, first) :: (← compileMembers h run rest)

end

end Switchboard.Template
