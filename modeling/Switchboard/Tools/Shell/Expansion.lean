import Switchboard.Tools.Shell.Arithmetic
import Switchboard.Tools.Shell.Pattern

/-!
Expanding words: parameters, substitutions and arithmetic are replaced, and what comes of them outside
of quotes is cut into fields.

What a script in a substitution writes is a parameter here.
-/
namespace Switchboard.Tools.Shell

/-- An atom of an expanded word: a character, with whether it is quoted and whether the word may be
cut at it; a pair of quotes; or a cut. -/
inductive Atom where
  | char (c : Char) (quoted splits : Bool)
  | quotes
  | cut
  deriving DecidableEq

namespace Atom

/-- The atoms of a text that comes of an expansion. -/
def ofText (quoted : Bool) (cs : Octets) : List Atom := cs.map fun c => .char c quoted !quoted

/-- The text of atoms, with spaces at cuts. -/
def text (atoms : List Atom) : Octets := atoms.filterMap fun
  | .char c _ _ => some c
  | .quotes => none
  | .cut => some ' '

/-- The pattern of atoms. -/
def pattern (atoms : List Atom) : List Pattern.Mark := atoms.filterMap fun
  | .char c quoted _ => some (c, quoted)
  | .quotes => none
  | .cut => some (' ', true)

/-- How the last field ended: nothing has been cut yet, by a blank, or by another separator. -/
inductive Edge where
  | inside
  | blank
  | mark
  deriving DecidableEq

/-- The fields of atoms: a run of blanks cuts once, any other separator cuts each time, blanks around
it aside. -/
def fields (separators : Octets) (edge : Edge) (current : Option Octets) : List Atom → List Octets
  | [] => current.toList.map List.reverse
  | .quotes :: rest => fields separators .inside (some (current.getD [])) rest
  | .cut :: rest => current.toList.map List.reverse ++ fields separators .mark none rest
  | .char c _ splits :: rest =>
    if !(splits && c ∈ separators) then
      fields separators .inside (some (c :: current.getD [])) rest
    else if Octets.isSpace c then
      let edge := if current.isNone && edge != .inside then edge else .blank
      current.toList.map List.reverse ++ fields separators edge none rest
    else if current.isNone && edge = .blank then fields separators .mark none rest
    else (current.getD []).reverse :: fields separators .mark none rest

end Atom

namespace Expansion

/-- The value of a parameter, if it is set. -/
def lookup (s : State) (name : Octets) : Option Octets :=
  match name with
  | ['?'] => some (Octets.ofInt s.status)
  | ['#'] => some (Octets.ofInt s.parameters.length)
  | ['$'] => some State.processNumber
  | ['!'] => s.valueOf? ['!']
  | ['-'] => some s.options
  | ['0'] => some s.name
  | ['@'] => some (Octets.join [' '] s.parameters)
  | ['*'] => some (Octets.join (s.separators.take 1) s.parameters)
  | name =>
    if name.all Text.isDigit then s.parameters[Text.digitsValue name - 1]?
    else s.valueOf? name

/-- The atoms of a parameter's value. -/
def atoms (s : State) (name : Octets) (quoted : Bool) : List Atom :=
  let each (mark : List Atom) : List Atom :=
    (s.parameters.map fun p => mark ++ Atom.ofText quoted p).intersperse [.cut] |>.flatten
  if name = ['@'] then each (if quoted then [.quotes] else [])
  else if name = ['*'] && !quoted then each []
  else Atom.ofText quoted ((lookup s name).getD [])

/-- What a parameter that is not set is complained of with. -/
def unsetMessage (orEmpty : Bool) : Octets :=
  (if orEmpty then "parameter not set or null" else "parameter not set").toList

/-- The atoms of a parameter in a form; `expand` expands the words of forms. -/
def form (expand : Bool → Word → Run (List Atom)) (name : Octets) (f : Form) (quoted : Bool) :
    Run (List Atom) := do
  let s ← get
  let value := lookup s name
  let isUnset (orEmpty : Bool) : Bool := match value with
    | none => true
    | some v => orEmpty && v.isEmpty
  let require : Run Unit := do
    if value.isNone && s.has 'u' then
      Run.fault (name ++ ": ".toList ++ unsetMessage false) 2
  match f with
  | .value =>
    require
    return atoms s name quoted
  | .length =>
    require
    return Atom.ofText quoted (Octets.ofInt ((value.getD []).length))
  | .otherwise orEmpty word =>
    if isUnset orEmpty then expand (!quoted) word else return atoms s name quoted
  | .assign orEmpty word =>
    if isUnset orEmpty then
      if !Octets.isName name then Run.fault (name ++ ": bad variable name".toList) 2
      let text := Atom.text (← expand false word)
      Run.assign name text
      return Atom.ofText quoted text
    else return atoms s name quoted
  | .demand orEmpty word =>
    if isUnset orEmpty then
      let text := Atom.text (← expand false word)
      Run.fault (name ++ ": ".toList ++ (if word.isEmpty then unsetMessage orEmpty else text)) 2
    else return atoms s name quoted
  | .whenSet orEmpty word =>
    if isUnset orEmpty then return [] else expand (!quoted) word
  | .trim atEnd longest word =>
    require
    let pattern := Atom.pattern (← expand false word)
    return Atom.ofText quoted (Pattern.trim atEnd longest pattern (value.getD []))
  | .invalid => Run.fault "Bad substitution".toList 2

/-- Whether a part stands for parameters of which there are none, so that the quotes around it do not
make a word. -/
def isNothing (s : State) : Part → Bool
  | .parameter ['@'] .value true => s.parameters.isEmpty
  | _ => false

/-- The atoms of a word. Characters outside of quotes may be cut at if `splits`, as those of a word in
a form are. -/
def expand (output : Script → Run Octets) : (fuel : Nat) → (splits : Bool) → Word →
    Run (List Atom)
  | 0, _, _ => throw .endless
  | fuel + 1, splits, word => do
    let expandPart (part : Part) (rest : Word) : Run (List Atom) := do
      match part with
      | .char c quoted => return [.char c quoted (splits && !quoted)]
      | .quotes =>
        let s ← get
        let vanishes := (rest.head?.map (isNothing s)).getD false
        return if vanishes then [] else [.quotes]
      | .parameter name f quoted => form (expand output fuel) name f quoted
      | .output body quoted => do
        let before := (← get).status
        let text ← output body
        modify fun s => { s with substituted := some s.status, status := before }
        return Atom.ofText quoted ((text.reverse.dropWhile (· = '\n')).reverse.filter (· != '\x00'))
      | .arithmetic e quoted => do
        let text := Atom.text (← expand output fuel false e)
        return Atom.ofText quoted (Octets.ofInt (← Expression.evaluateText text))
    let rec all : Word → Run (List Atom)
      | [] => return []
      | part :: rest => do
        let front ← expandPart part rest
        return front ++ (← all rest)
    all word

/-- A word whose tilde in front is replaced by the home directory. -/
def withHome (s : State) (word : Word) : Word :=
  match word with
  | .char '~' false :: rest =>
    let isAlone := match rest with
      | [] => true
      | .char c false :: _ => c = '/'
      | _ => false
    match s.valueOf? "HOME".toList with
    | some home => if isAlone then chars true home ++ rest else word
    | none => word
  | _ => word

/-- The fields that words become. -/
def fields (expand : Bool → Word → Run (List Atom)) (words : List Word) : Run (List Octets) := do
  let parts ← words.mapM fun word => do
    let atoms ← expand false (withHome (← get) word)
    return Atom.fields (← get).separators .inside none atoms
  return parts.flatten

/-- The text that a word becomes where it is not cut. -/
def text (expand : Bool → Word → Run (List Atom)) (word : Word) : Run Octets := do
  return Atom.text (← expand false (withHome (← get) word))

end Expansion

end Switchboard.Tools.Shell
