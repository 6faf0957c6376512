import Switchboard.Text.Blank
import Switchboard.Json.Reader

/-!
Template paths: `input.user[0].name`, `steps[1]`, `stepsByName.first.text`, `previousStep` and the
shorthand `first.text`.

`Path.parse` reads an expression, with or without its double braces; `Path.written` writes a path
back. A path that names no root starts from the outputs by step name.
-/
namespace Switchboard.Template

/-- Where a path starts. -/
inductive Root where
  | input
  | steps
  | stepsByName
  | previousStep
  deriving DecidableEq

namespace Root

/-- The reserved word for a root. -/
def word : Root → String
  | .input => "input"
  | .steps => "steps"
  | .stepsByName => "stepsByName"
  | .previousStep => "previousStep"

/-- The roots, in the order in which a first name is compared with their words. -/
def all : List Root := [.input, .steps, .stepsByName, .previousStep]

/-- The root that a word is reserved for. -/
def ofWord? (word : String) : Option Root := all.find? (fun root => root.word == word)

end Root

/-- One step of a path. -/
inductive Segment where
  | name (key : String)
  | index (n : Nat)
  deriving DecidableEq

namespace Segment

/-- A segment as a mapping key and in messages. -/
def text : Segment → String
  | .name key => key
  | .index n => toString n

/-- A segment as it is written behind another one. -/
def written : Segment → String
  | .name key => "." ++ key
  | .index n => "[" ++ toString n ++ "]"

end Segment

/-- A parsed path; `text` is what it was read from, without braces and surrounding blanks. -/
structure Path where
  text : String
  root : Root
  segments : List Segment
  explicitRoot : Bool
  deriving DecidableEq

/-- What keeps a path from leading to a value. -/
inductive Cause where
  | empty
  | invalidSegment (raw : String)
  | leadingIndex
  | noPreviousStep
  | isNull (place : String)
  | noProperty (key place : String) (available : List String)
  | notContainer (place kind : String)
  deriving DecidableEq

/-- The three reasons that a failed path is put down to. -/
inductive Reason where
  | null
  | type
  | missing
  deriving DecidableEq

/-- The word for a reason. -/
def Reason.word : Reason → String
  | .null => "null"
  | .type => "type"
  | .missing => "missing"

namespace Cause

/-- The reason that a cause counts as. -/
def reason : Cause → Reason
  | .isNull _ => .null
  | .notContainer _ _ => .type
  | _ => .missing

/-- The wording of a cause. -/
def message : Cause → String
  | .empty => "template path is empty"
  | .invalidSegment raw => "invalid path segment \"" ++ raw ++ "\""
  | .leadingIndex => "a template path cannot start with an index"
  | .noPreviousStep => "\"previousStep\" is not available before the first step completes"
  | .isNull place => "\"" ++ place ++ "\" is null"
  | .noProperty key place available =>
    "property \"" ++ key ++ "\" does not exist in \"" ++ place ++ "\". Available properties: "
      ++ Text.join ", " available
  | .notContainer place kind => "\"" ++ place ++ "\" is not an object (got " ++ kind ++ ")"

end Cause

/-- Why a template has no value. Only the first two are faults of a template; the third is an index
whose digits are too many to be read as a number. -/
inductive Error where
  | unresolved (path : String) (cause : Cause)
  | embedded (template : String)
  | tooManyDigits (digits : Nat)
  deriving DecidableEq

namespace Error

/-- The message for an error. -/
def message : Error → String
  | .unresolved path cause =>
    "Cannot resolve template path \"" ++ path ++ "\": " ++ cause.message
  | .embedded template =>
    "Embedded templates are not supported. Use a single template expression like \""
      ++ "\x7b\x7bpath\x7d\x7d\", not \"" ++ template ++ "\""
  | .tooManyDigits digits => Text.Numeral.tooLongMessage digits

/-- Whether the error is a fault of the template. -/
def isTemplateFault : Error → Bool
  | .tooManyDigits _ => false
  | _ => true

end Error

/-- The double opening brace. -/
def opening : List Char := ['{', '{']

/-- The double closing brace. -/
def closing : List Char := ['}', '}']

/-- A text without blanks at its ends and without one pair of double braces around it. -/
def unwrap (cs : List Char) : List Char :=
  let bare := Text.strip cs
  if Text.startsWith opening bare && Text.endsWith closing bare then
    Text.strip ((bare.drop 2).take (bare.length - 4))
  else bare

/-- The digit runs of `[1][22]…`; `run` holds the digits read since the last opening bracket, latest
first. -/
def indexGroups : (run : Option (List Char)) → List Char → Option (List (List Char))
  | none, [] => some []
  | none, c :: rest => if c = '[' then indexGroups (some []) rest else none
  | some _, [] => none
  | some run, c :: rest =>
    if Text.isDigit c then indexGroups (some (c :: run)) rest
    else if c = ']' && !run.isEmpty then (indexGroups none rest).map (run.reverse :: ·)
    else none

/-- Whether a character is a bracket. -/
def isBracket (c : Char) : Bool := c = '[' || c = ']'

/-- A piece of a path between dots: a name, bracketed indices, or a name with indices behind it. -/
def splitSegment? (cs : List Char) : Option (List Char × List (List Char)) :=
  let name := cs.takeWhile (!isBracket ·)
  match indexGroups none (cs.dropWhile (!isBracket ·)) with
  | some groups => if name.isEmpty && groups.isEmpty then none else some (name, groups)
  | none => none

/-- The number that a run of digits writes, unless it has too many of them. -/
def readIndex (digits : List Char) : Except Error Nat :=
  if digits.length > Json.maxDigits then .error (.tooManyDigits digits.length)
  else .ok (Text.digitsValue digits)

/-- The segments of one piece of the path `path`. -/
def readSegments (path : String) (raw : List Char) : Except Error (List Segment) :=
  match splitSegment? (Text.strip raw) with
  | none => .error (.unresolved path (.invalidSegment (String.ofList raw)))
  | some (name, groups) => do
    let indices ← groups.mapM readIndex
    let start := if name.isEmpty then [] else [Segment.name (String.ofList name)]
    return start ++ indices.map .index

namespace Path

/-- Reads an expression. -/
def parse (expression : String) : Except Error Path := do
  let body := unwrap expression.toList
  let text := String.ofList body
  if body.isEmpty then throw (.unresolved expression .empty)
  let pieces ← (Text.splitOn (· = '.') body).mapM (readSegments text)
  match pieces.flatten with
  | .name key :: rest =>
    match Root.ofWord? key with
    | some root => return ⟨text, root, rest, true⟩
    | none => return ⟨text, .stepsByName, .name key :: rest, false⟩
  | _ => throw (.unresolved text .leadingIndex)

/-- A path as an expression between double braces. -/
def written (p : Path) : String :=
  let body := match p.explicitRoot, p.segments with
    | true, segments => p.root.word ++ String.join (segments.map Segment.written)
    | false, first :: rest => first.text ++ String.join (rest.map Segment.written)
    | false, [] => ""
  "\x7b\x7b" ++ body ++ "\x7d\x7d"

end Path

end Switchboard.Template
