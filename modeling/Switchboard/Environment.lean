import Switchboard.Text.Case

/-!
Variables of the environment, and the files that add to them: lines `NAME=value`, with quotes,
comments and references `${OTHER:-default}` to other variables.

What is set already is never replaced by a file.
-/
namespace Switchboard

/-- The variables that are set. -/
abbrev Environment := List (String × String)

namespace Environment

/-- The value of a variable. -/
def get? (e : Environment) (name : String) : Option String := List.lookup name e

/-- The value of a variable, if it is set to more than nothing. -/
def value? (e : Environment) (name : String) : Option String :=
  match e.get? name with
  | some "" => none
  | v => v

/-! ### Lines -/

/-- A blank that does not end a line. -/
def isGap (c : Char) : Bool := Text.isBlank c && c != '\n' && c != '\r'

/-- The end of a line. -/
def isLineEnd (c : Char) : Bool := c = '\n' || c = '\r'

/-- What a line says: a name and the value written for it, if any. A comment says nothing. -/
structure Binding where
  name : Option String
  value : Option String
  deriving DecidableEq

/-- What follows the line that one is in. -/
def skipLine (cs : List Char) : List Char :=
  match cs.dropWhile (!isLineEnd ·) with
  | _ :: rest => rest
  | [] => []

/-- What follows a quoted text up to its closing quote, which no backslash stands in front of; if
there is none such, the last quote behind a backslash closes it. -/
def closingQuote (quote : Char) : (read : List Char) → List Char →
    Option (List Char × List Char) → Option (List Char × List Char)
  | _, [], last => last
  | read, '\\' :: c :: rest, last =>
    if c = quote then closingQuote quote (c :: '\\' :: read) rest (some (('\\' :: read).reverse, rest))
    else closingQuote quote ('\\' :: read) (c :: rest) last
  | read, c :: rest, last =>
    if c = quote then some (read.reverse, rest) else closingQuote quote (c :: read) rest last

/-- The character that a letter behind a backslash stands for, in quotes of a kind. -/
def escaped? (quote : Char) (c : Char) : Option Char :=
  if c = '\\' || c = '\x27' then some c
  else if quote = '"' then
    match c with
    | '"' => some '"'
    | 'a' => some '\x07'
    | 'b' => some '\x08'
    | 'f' => some '\x0c'
    | 'n' => some '\n'
    | 'r' => some '\r'
    | 't' => some '\t'
    | 'v' => some '\x0b'
    | _ => none
  else none

/-- A quoted text with its escapes replaced. -/
def unescape (quote : Char) : List Char → List Char
  | '\\' :: c :: rest =>
    match escaped? quote c with
    | some d => d :: unescape quote rest
    | none => '\\' :: unescape quote (c :: rest)
  | c :: rest => c :: unescape quote rest
  | [] => []
termination_by cs => cs.length

/-- A value without quotes, up to a comment behind a blank. -/
def uncommented : List Char → List Char
  | [] => []
  | c :: rest =>
    if Text.isBlank c && (rest.dropWhile Text.isBlank).head? = some '#' then []
    else c :: uncommented rest

/-- The value behind an equals sign, and the rest; a quote that is not closed is an error at the
place where it stands. -/
def takeValue (cs : List Char) : Except (List Char) (String × List Char) :=
  match cs with
  | [] => .ok ("", [])
  | c :: rest =>
    if c = '\x27' || c = '"' then
      match closingQuote c [] rest none with
      | some (text, after) => .ok (String.ofList (unescape c text), after)
      | none => .error cs
    else if isLineEnd c then .ok ("", cs)
    else
      let line := cs.takeWhile (!isLineEnd ·)
      .ok (String.ofList (Text.stripEnd (uncommented line)), cs.drop line.length)

/-- The name at the start of a line, none in front of a comment. -/
def takeName (cs : List Char) : Except (List Char) (Option String × List Char) :=
  match cs with
  | '#' :: _ => .ok (none, cs)
  | '\x27' :: rest =>
    let name := rest.takeWhile (· != '\x27')
    match rest.drop name.length with
    | _ :: after => if name.isEmpty then .error cs else .ok (some (String.ofList name), after)
    | [] => .error cs
  | cs =>
    let name := cs.takeWhile fun c => !(c = '=' || c = '#' || Text.isBlank c)
    if name.isEmpty then .error cs else .ok (some (String.ofList name), cs.drop name.length)

/-- The word that may stand in front of a name. -/
def skipExport (cs : List Char) : List Char :=
  match Text.dropPrefix? "export".toList cs with
  | some (c :: rest) => if isGap c then rest.dropWhile isGap else cs
  | _ => cs

/-- The rest behind the end of a line; a comment may stand in front of it, but nothing else. -/
def takeLineEnd (cs : List Char) : Except (List Char) (List Char) :=
  let commented := match cs.dropWhile isGap with
    | '#' :: rest => rest.dropWhile (!isLineEnd ·)
    | _ => cs
  match commented.dropWhile isGap with
  | [] => .ok []
  | '\r' :: '\n' :: rest => .ok rest
  | c :: rest => if isLineEnd c then .ok rest else .error commented

/-- One line, and what follows it. In case of an error the rest starts where the error was found. -/
def takeBinding (cs : List Char) : Except (List Char) (Binding × List Char) := do
  let (name, cs) ← takeName (skipExport cs)
  let cs := cs.dropWhile isGap
  match cs with
  | '=' :: rest =>
    let (value, cs) ← takeValue (rest.dropWhile isGap)
    return (⟨name, some value⟩, ← takeLineEnd cs)
  | cs => return (⟨name, none⟩, ← takeLineEnd cs)

/-- All lines; one with an error is passed over. -/
def bindings : (fuel : Nat) → List Char → List Binding
  | 0, _ => []
  | fuel + 1, cs =>
    match cs.dropWhile Text.isBlank with
    | [] => []
    | cs =>
      match takeBinding cs with
      | .ok (binding, rest) => binding :: bindings fuel rest
      | .error rest => bindings fuel (skipLine rest)

/-! ### References -/

/-- A reference at the start of a text: its name, its default, and the rest. -/
def reference? (cs : List Char) : Option ((String × Option String) × List Char) := do
  let rest ← Text.dropPrefix? ['$', '{'] cs
  let name := rest.takeWhile fun c => c != '}' && c != ':'
  match rest.drop name.length with
  | '}' :: after => some ((String.ofList name, none), after)
  | ':' :: '-' :: rest =>
    let default := rest.takeWhile (· != '}')
    match rest.drop default.length with
    | _ :: after => some ((String.ofList name, some (String.ofList default)), after)
    | [] => none
  | _ => none

/-- A value with its references replaced; the first `passed` characters belong to a reference. -/
def expandFrom (lookup : String → Option (Option String)) : (passed : Nat) → List Char → List Char
  | _, [] => []
  | passed + 1, _ :: rest => expandFrom lookup passed rest
  | 0, c :: rest =>
    match reference? (c :: rest) with
    | some ((name, default), after) =>
      let value := match lookup name with
        | some value => value.getD ""
        | none => default.getD ""
      value.toList ++ expandFrom lookup (rest.length - after.length) rest
    | none => c :: expandFrom lookup 0 rest

/-- The values that lines give, with references to the environment and to the lines before replaced;
the environment goes first. -/
def resolve (e : Environment) (found : List (String × Option String)) :
    List Binding → List (String × Option String)
  | [] => found
  | ⟨none, _⟩ :: rest => resolve e found rest
  | ⟨some name, value⟩ :: rest =>
    let lookup (other : String) : Option (Option String) :=
      match e.get? other with
      | some v => some (some v)
      | none => found.lookup other
    let value := value.map fun v => String.ofList (expandFrom lookup 0 v.toList)
    resolve e ((name, value) :: found) rest

/-- Why a variable cannot be set. -/
inductive VariableError where
  | nameMark
  | nul
  deriving DecidableEq

/-- The message for it. -/
def VariableError.message : VariableError → String
  | .nameMark => "illegal environment variable name"
  | .nul => "embedded null byte"

/-- Sets a variable. Neither its name nor its value holds the character U+0000, and its name holds no
equals sign. -/
def set (e : Environment) (name value : String) : Except VariableError Environment :=
  if name.contains '\x00' || value.contains '\x00' then .error .nul
  else if name.contains '=' then .error .nameMark
  else .ok ((name, value) :: e)

/-- Whether files of variables are not to be read at all. -/
def ignoresFiles (e : Environment) : Bool :=
  match e.get? "PYTHON_DOTENV_DISABLED" with
  | none => false
  | some word =>
    let folded := (Text.lowered word.toList).map fun c => if c = 'ſ' then 's' else c
    String.ofList folded ∈ ["1", "true", "t", "yes", "y"]

/-- The environment with the variables of a file added. -/
def withFile (e : Environment) (text : String) : Except VariableError Environment :=
  let cs := text.toList
  let found := resolve e [] (bindings (cs.length + 1) cs)
  (found.map (·.1)).reverse.eraseDups.foldlM (fun env name =>
    match env.get? name, (found.lookup name).getD none with
    | none, some value => env.set name value
    | _, _ => .ok env) e

end Environment

end Switchboard
