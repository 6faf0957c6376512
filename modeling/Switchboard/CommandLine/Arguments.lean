import Switchboard.Text.Numeral

/-!
The arguments of the command line: options with long names, each of which may be cut short as long as
only one option starts that way, with values behind them or behind an equals sign.
-/
namespace Switchboard.CommandLine

/-- What the command line asks for. -/
structure Arguments where
  config : String
  host : Option String
  port : Option Int
  logLevel : Option String
  check : Bool
  deriving DecidableEq

/-- What no arguments ask for. -/
def Arguments.default : Arguments := ⟨"endpoints.yaml", none, none, none, false⟩

/-- The options. -/
inductive Flag where
  | help
  | config
  | host
  | port
  | logLevel
  | check
  deriving DecidableEq

/-- Whether an option has a value. -/
def Flag.hasValue : Flag → Bool
  | .help | .check => false
  | _ => true

/-- The names of the options. -/
def flagNames : List (String × Flag) :=
  [("-h", .help), ("--help", .help), ("--config", .config), ("--host", .host), ("--port", .port),
    ("--log-level", .logLevel), ("--check", .check)]

/-- What an argument is: an option, perhaps with its value, the one-letter option with more letters
behind it, something that looks like an option but is none, or anything else, which can be a value. -/
inductive Word where
  | flag (f : Flag) (value : Option String)
  | letters (more : String)
  | unknown
  | plain (s : String)
  | separator
  deriving DecidableEq

/-- What stands in front of the first equals sign, and behind it if there is one. -/
def splitValue (cs : List Char) : List Char × Option String :=
  let name := cs.takeWhile (· != '=')
  match cs.drop name.length with
  | _ :: value => (name, some (String.ofList value))
  | [] => (name, none)

/-- Whether an argument writes a number below zero. -/
def isNegativeNumber : List Char → Bool
  | '-' :: cs =>
    let whole := cs.takeWhile Text.isDecimal
    match cs.drop whole.length with
    | [] => !whole.isEmpty
    | '.' :: fraction => !fraction.isEmpty && fraction.all Text.isDecimal
    | _ => false
  | _ => false

/-- What an argument can stand for, with the values that it gives to options. -/
def candidates (cs : List Char) : List Word :=
  match cs with
  | '-' :: '-' :: _ =>
    let (start, value) := splitValue cs
    flagNames.filterMap fun (name, f) =>
      if start.isPrefixOf name.toList then some (.flag f value) else none
  | _ =>
    flagNames.filterMap fun (name, f) =>
      if name.toList = cs.take 2 then some (.letters (String.ofList (cs.drop 2)))
      else if cs.isPrefixOf name.toList then some (.flag f none)
      else none

/-- Why arguments cannot be followed: some are wrong, or they ask for help only. -/
inductive Stop where
  | refused
  | help
  deriving DecidableEq

/-- What an argument is. One that could stand for several options is refused. -/
def classify (s : String) : Except Stop Word :=
  let cs := s.toList
  if s == "--" then .ok .separator
  else if cs.head? != some '-' || s == "-" then .ok (.plain s)
  else
    match flagNames.lookup s with
    | some f => .ok (.flag f none)
    | none =>
      let (name, value) := splitValue cs
      match value, flagNames.lookup (String.ofList name) with
      | some v, some f => .ok (if name.length = 2 then .letters v else .flag f (some v))
      | _, _ =>
        match candidates cs with
        | _ :: _ :: _ => .error .refused
        | [word] => .ok word
        | [] =>
          if isNegativeNumber cs || cs.contains ' ' then .ok (.plain s) else .ok .unknown

/-- What the arguments are; behind a separator nothing is an option. -/
def classifyAll : List String → Except Stop (List Word)
  | [] => .ok []
  | s :: rest => do
    match ← classify s with
    | .separator => return .separator :: rest.map .plain
    | w => return w :: (← classifyAll rest)

/-- Arguments with the value of an option put in. -/
def Arguments.set (a : Arguments) (f : Flag) (value : String) : Except Stop Arguments :=
  match f with
  | .config => .ok { a with config := value }
  | .host => .ok { a with host := some value }
  | .logLevel => .ok { a with logLevel := some value }
  | .port =>
    match Text.Numeral.readInt 10 value.toList with
    | .ok n => .ok { a with port := some n }
    | .error _ => .error .refused
  | .check => .ok { a with check := true }
  | .help => .error .help

/-- Follows the words one after the other. Words that belong to no option are refused, but only at the
end; a call for help comes first if it stands before an error. -/
def follow (a : Arguments) (extra : Bool) : List Word → Except Stop Arguments
  | [] => if extra then .error .refused else .ok a
  | .flag f none :: .plain s :: rest =>
    if f.hasValue then do follow (← a.set f s) extra rest
    else do follow (← a.set f "") true rest
  | .flag f value :: rest =>
    match value, f.hasValue with
    | some v, true => do follow (← a.set f v) extra rest
    | none, false => do follow (← a.set f "") extra rest
    | some _, false | none, true => .error .refused
  | .letters more :: _ =>
    .error (if more != "" && more.toList.all (· = 'h') then .help else .refused)
  | _ :: rest => follow a true rest

/-- Reads the arguments of the command line. -/
def read (arguments : List String) : Except Stop Arguments := do
  follow .default false (← classifyAll arguments)

end Switchboard.CommandLine
