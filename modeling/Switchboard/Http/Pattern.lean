import Switchboard.Text.Blank

/-!
Patterns of paths: literal text, and parameters in braces, `/users/{id:int}`, each of which stands
for a part of the path of its kind.

A pattern matches a whole path; a line feed may follow. Where a parameter could take more or less, it
takes as much as the rest of the pattern allows.
-/
namespace Switchboard.Http

/-- The kinds of parameters. -/
inductive ParameterKind where
  | part
  | path
  | integer
  | number
  | uuid
  deriving DecidableEq

/-- The words for the kinds. -/
def parameterKinds : List (String × ParameterKind) :=
  [("str", .part), ("path", .path), ("int", .integer), ("float", .number), ("uuid", .uuid)]

/-- A piece of a pattern. -/
inductive PatternPiece where
  | literal (c : Char)
  | parameter (name : String) (kind : ParameterKind)
  deriving DecidableEq

/-- A pattern of paths. -/
abbrev Pattern := List PatternPiece

/-- Why a text is no pattern. -/
inductive PatternError where
  | unknownKind (kind : String)
  | repeated (names : List String) (path : String)
  deriving DecidableEq

/-- The message for it. -/
def PatternError.message : PatternError → String
  | .unknownKind kind => "Unknown path convertor '" ++ kind ++ "'"
  | .repeated names path =>
    "Duplicated param name" ++ (if names.length > 1 then "s" else "") ++ " " ++ Text.join ", " names
      ++ " at path " ++ path

namespace Pattern

/-! ### Reading -/

/-- The name at the start of a text: a letter or a low line, then those and digits. -/
def name? (cs : List Char) : Option (List Char × List Char) :=
  match cs with
  | c :: rest =>
    if Text.isLetter c || c = '_' then
      let more := rest.takeWhile fun c => Text.isLetter c || Text.isDigit c || c = '_'
      some (c :: more, rest.drop more.length)
    else none
  | [] => none

/-- The name and the kind of the parameter that a text starts with, and what follows it. -/
def parameter? (cs : List Char) : Option ((String × String) × List Char) := do
  let inner ← Text.dropPrefix? ['\x7b'] cs
  let (name, rest) ← name? inner
  let (kind, rest) ← match rest with
    | ':' :: rest => name? rest
    | rest => some ("str".toList, rest)
  let rest ← Text.dropPrefix? ['\x7d'] rest
  some ((String.ofList name, String.ofList kind), rest)

/-- The pieces of a text; the first `passed` characters belong to a parameter already read. -/
def readFrom : (passed : Nat) → List Char → Except PatternError Pattern
  | _, [] => .ok []
  | passed + 1, _ :: rest => readFrom passed rest
  | 0, c :: rest =>
    match parameter? (c :: rest) with
    | none => (readFrom 0 rest).map (.literal c :: ·)
    | some ((name, kind), after) =>
      match parameterKinds.lookup kind with
      | none => .error (.unknownKind kind)
      | some kind => (readFrom (rest.length - after.length) rest).map (.parameter name kind :: ·)

/-- The names of the parameters. -/
def names (p : Pattern) : List String :=
  p.filterMap fun
    | .parameter name _ => some name
    | .literal _ => none

/-- The names that occur more than once, in order, each once. -/
def repeatedNames (names : List String) : List String :=
  ((names.filter fun name => 1 < names.count name).eraseDups).mergeSort fun a b => !(b < a)

/-- Reads a pattern. No parameter may occur twice. -/
def read (path : String) : Except PatternError Pattern := do
  let p ← readFrom 0 path.toList
  match repeatedNames p.names with
  | [] => return p
  | names => throw (.repeated names path)

/-! ### Matching -/

/-- The lengths from `low` to `high`, longest first. -/
def lengths (low high : Nat) : List Nat :=
  ((List.range (high + 1)).filter (low ≤ ·)).reverse

/-- The number of hexadecimal digits in front of a text must be what a group has; between groups a
hyphen may stand. -/
def groupsLength? : List Nat → List Char → Option Nat
  | [], _ => some 0
  | group :: more, cs =>
    let start := cs.take group
    if start.length = group && start.all (fun c => (Text.hexValue? c).isSome) then
      let rest := cs.drop group
      match more, rest with
      | [], _ => some group
      | more, '-' :: rest => (groupsLength? more rest).map (group + 1 + ·)
      | more, rest => (groupsLength? more rest).map (group + ·)
    else none

/-- The lengths of what a parameter of a kind can take from the start of a text, in the order in
which they are tried. -/
def choices (kind : ParameterKind) (cs : List Char) : List Nat :=
  let digits (cs : List Char) : Nat := (cs.takeWhile Text.isDigit).length
  match kind with
  | .part => lengths 1 (cs.takeWhile (· != '/')).length
  | .path => lengths 0 (cs.takeWhile (· != '\n')).length
  | .integer => lengths 1 (digits cs)
  | .number =>
    let whole := digits cs
    let fraction := match cs.drop whole with
      | '.' :: rest => if whole = 0 then [] else (lengths 1 (digits rest)).map (whole + 1 + ·)
      | _ => []
    fraction ++ lengths 1 whole
  | .uuid => (groupsLength? [8, 4, 4, 4, 12] cs).toList

/-- What the parameters of a pattern take from a path that it matches. -/
def captures? : Pattern → List Char → Option (List (ParameterKind × List Char))
  | [], cs => if cs = [] ∨ cs = ['\n'] then some [] else none
  | .literal c :: rest, cs =>
    match cs with
    | d :: cs => if c = d then captures? rest cs else none
    | [] => none
  | .parameter _ kind :: rest, cs =>
    (choices kind cs).findSome? fun n =>
      (captures? rest (cs.drop n)).map ((kind, cs.take n) :: ·)

end Pattern

end Switchboard.Http
