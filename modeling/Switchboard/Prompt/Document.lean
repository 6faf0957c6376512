import Switchboard.Files.Disk
import Switchboard.Yaml.Reader
import Switchboard.Json.Reader

/-!
Prompt files: the text of a prompt, with settings for the model in front of it, as YAML between lines
of dashes or as JSON between lines of single braces.
-/
namespace Switchboard.Prompt

/-- A prompt file: its text, and the settings in front of it. -/
structure Document where
  text : String
  settings : List (Key × Value)

/-- Why a file is no prompt. -/
inductive DocumentError where
  | unreadable (e : Files.ReadError)
  | yaml (e : Yaml.ReadError)
  | json (text : List Char) (e : Json.ReadError)
  | reserved (name : String)
  | keyKind
  | empty (path : Files.Path)

/-- The two ways to write settings in front of a text. -/
inductive Format where
  | yaml
  | json
  deriving DecidableEq

/-- The rest behind a line that bounds settings, if the text starts with one. A line of dashes takes
the blanks behind it along, line ends too, as long as it still ends where a line ends. -/
def boundary? (format : Format) (cs : List Char) : Option (List Char) :=
  let endsLine (rest : List Char) : Bool := rest.isEmpty || rest.head? = some '\n'
  match format with
  | .yaml =>
    let dashes := (cs.takeWhile (· = '-')).length
    if dashes < 3 then none
    else
      let rest := cs.drop dashes
      let blanks := (rest.takeWhile Text.isBlank).length
      let ends := ((List.range (blanks + 1)).map rest.drop).filter endsLine
      ends.getLast?
  | .json =>
    match cs with
    | c :: rest => if (c = '{' || c = '}') && endsLine rest then some rest else none
    | [] => none

/-- What stands in front of the first boundary, and what stands behind it. `atStart` says whether a
line starts here. -/
def splitBoundary (format : Format) : (atStart : Bool) → List Char → Option (List Char × List Char)
  | _, [] => none
  | atStart, c :: rest =>
    match (if atStart then boundary? format (c :: rest) else none) with
    | some after => some ([], after)
    | none => (splitBoundary format (c = '\n') rest).map fun (before, after) => (c :: before, after)

/-- The format of the settings that a text starts with. -/
def formatOf? (cs : List Char) : Option Format :=
  [Format.yaml, .json].find? fun format => (boundary? format cs).isSome

/-- The settings in front of a text and the text itself; settings that are not closed belong to the
text. -/
def split (cs : List Char) : Option (Format × List Char × List Char) := do
  let format ← formatOf? cs
  let settings ← boundary? format cs
  let (settings, content) ← splitBoundary format false settings
  some (format, settings, content)

/-- The value of written settings. -/
def settingsValue (format : Format) (cs : List Char) : Except DocumentError Value :=
  match format with
  | .yaml => (Yaml.read .tabbed (String.ofList cs)).mapError .yaml
  | .json =>
    let text := '{' :: cs ++ ['}']
    (Json.parse text).mapError (.json text)

/-- Names that settings cannot have. -/
def reservedNames : List String := ["self", "content", "handler"]

/-- The members of settings. Their keys are texts, and the first that is reserved is refused; anything
that is no mapping counts as none. -/
def settingsMembers (v : Value) : Except DocumentError (List (Key × Value)) :=
  match v with
  | .object members =>
    if members.any fun (k, _) => match k with | .text _ => false | _ => true then .error .keyKind
    else
      match (members.map fun (k, _) => k.plain).find? (· ∈ reservedNames) with
      | some name => .error (.reserved name)
      | none => .ok members
  | _ => .ok []

/-- The prompt in a text. -/
def Document.read (text : String) : Except DocumentError Document := do
  let cs := Text.strip text.toList
  match split cs with
  | none => return ⟨String.ofList cs, []⟩
  | some (format, settings, content) =>
    let members ← settingsMembers (← settingsValue format settings)
    return ⟨String.ofList (Text.strip content), members⟩

/-- Reads a prompt file. -/
def Document.load (disk : Files.Disk) (path : Files.Path) : Except DocumentError Document := do
  let text ← (disk.readText path).mapError .unreadable
  let document ← Document.read text
  if document.text.isEmpty then throw (.empty path)
  return document

/-- The message for it, as far as there is one. -/
def DocumentError.message : DocumentError → String
  | .unreadable e => e.message
  | .yaml e => e.message
  | .json text e => e.describe text
  | .reserved name => "Post.__init__() got multiple values for argument " ++ Text.quoted name
  | .keyKind => "keywords must be strings"
  | .empty path => "Prompt file " ++ path.text ++ " is empty."

end Switchboard.Prompt
