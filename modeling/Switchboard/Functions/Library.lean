import Switchboard.Files.Disk
import Switchboard.Functions.Signature

/-!
Where functions come from: modules that are installed, and files.

Settings name a function of a module as `module:name`, and a function of a file by the file's place
below their directory.
-/
namespace Switchboard.Functions

/-- What a name means. -/
inductive Symbol where
  | function (f : Function)
  | constant (v : Value)

/-- Whether a symbol can be called. -/
def Symbol.isFunction : Symbol → Bool
  | .function _ => true
  | .constant _ => false

/-- The names that a module defines. Only a package can have modules inside it. -/
structure Module where
  isPackage : Bool
  symbols : List (String × Symbol)

/-- What loading a file gives: what the file says about itself and the names that it defines, or a
failure. -/
inductive Code where
  | defines (about : Option String) (symbols : List (String × Symbol))
  | fails (trouble : Trouble) (message : String)

/-- Something that is no function and no datum either. -/
def Symbol.other (kind : String) : Symbol := .constant (.foreign kind)

/-- A function that is known by name only. -/
def Symbol.unknown (name : String) : Symbol :=
  .function ⟨none, fun _ _ => .error (.raised .state (name ++ " cannot be called from here"))⟩

/-- The operations that every object has. -/
def objectOperations : List String :=
  ["class", "delattr", "dir", "eq", "format", "ge", "getattribute", "getstate", "gt", "hash", "init",
    "init_subclass", "le", "lt", "ne", "new", "reduce", "reduce_ex", "repr", "setattr", "sizeof",
    "str", "subclasshook"]

/-- A name between double low lines. -/
def special (name : String) : String := "__" ++ name ++ "__"

/-- What a module has besides the names that it defines: texts about itself, what it came from, and
the operations of every object. -/
def commonSymbols (name package : String) (about : Option String) : List (String × Symbol) :=
  let text (s : Option String) : Symbol := .constant (match s with | some s => .str s | none => .null)
  [(special "name", text (some name)), (special "package", text (some package)),
    (special "doc", text about), (special "loader", .other "loader"),
    (special "spec", .other "ModuleSpec"), (special "dict", .other "dict"),
    (special "builtins", .other "dict"), (special "annotations", .other "dict")]
    ++ objectOperations.map fun operation => (special operation, .unknown operation)

/-- The symbol of a name in a module. -/
def Module.find? (m : Module) (module name : String) : Option Symbol :=
  (m.symbols.lookup name).orElse fun _ =>
    (commonSymbols module (if m.isPackage then module else "") none).lookup name

/-- The functions there are. -/
structure Library where
  modules : List (String × Module)
  files : List (Files.Path × Code)

/-- Why a function cannot be had. -/
inductive LoadError where
  | form (path : String)
  | emptyModule
  | relative (module : String)
  | noModule (module : String) (parent : Option String)
  | noName (module name : String)
  | denied (e : Files.Denial)
  | noFile (path : Files.Path)
  | notCode (path : Files.Path)
  | failed (trouble : Trouble) (message : String)
  | notDefined (path : Files.Path) (name : String)

/-- The message for it. -/
def LoadError.message : LoadError → String
  | .form path => "Expected import path 'module:Symbol', got " ++ Text.quoted path
  | .emptyModule => "Empty module name"
  | .relative module =>
    "the 'package' argument is required to perform a relative import for " ++ Text.quoted module
  | .noModule module parent =>
    "No module named " ++ Text.quoted module ++ (match parent with
      | some parent => "; " ++ Text.quoted parent ++ " is not a package"
      | none => "")
  | .noName module name => "module " ++ Text.quoted module ++ " has no attribute " ++ Text.quoted name
  | .denied e => e.message
  | .noFile path => path.text
  | .notCode path => "Cannot load module from " ++ path.text
  | .failed _ message => message
  | .notDefined path name => path.text ++ " does not define " ++ Text.quoted name

namespace Library

/-- The module that lies at the end of a way of names, each in the module before; `before` is that
module's name. -/
def walk (l : Library) (before : Option String) : List (List Char) → Except LoadError String
  | [] => .ok (before.getD "")
  | part :: rest =>
    let name := match before with
      | some before => before ++ "." ++ String.ofList part
      | none => String.ofList part
    match l.modules.lookup name with
    | some _ => walk l (some name) rest
    | none =>
      let isPackage := match before.bind fun before => l.modules.lookup before with
        | some m => m.isPackage
        | none => true
      .error (.noModule name (if isPackage then none else before))

/-- A module. -/
def findModule (l : Library) (name : String) : Except LoadError Module := do
  if name.isEmpty then throw .emptyModule
  if name.startsWith "." then throw (.relative name)
  let found ← l.walk none (Text.splitOn (· = '.') name.toList)
  match l.modules.lookup found with
  | some m => return m
  | none => throw (.noModule name none)

/-- The symbol that `module:name` means. -/
def import? (l : Library) (path : String) : Except LoadError Symbol := do
  let module := path.toList.takeWhile (· != ':')
  match path.toList.drop module.length with
  | [] => throw (.form path)
  | _ :: name =>
    let module := String.ofList module
    let name := String.ofList name
    let found ← l.findModule module
    match found.find? module name with
    | some symbol => return symbol
    | none => throw (.noName module name)

/-- The symbol of a name in a file below a directory. -/
def loadFile (l : Library) (disk : Files.Disk) (boundary : Files.Boundary) (file name : String) :
    Except LoadError Symbol := do
  let path ← (boundary.resolve file).mapError .denied
  if !disk.isFile path then throw (.noFile path)
  if !path.name.endsWith ".py" then throw (.notCode path)
  match l.files.lookup path with
  | some (.fails trouble message) => throw (.failed trouble message)
  | some (.defines about symbols) => symbolOf path about symbols
  | none => symbolOf path none []
where
  /-- The symbol of the name among those that the file at a path defines. -/
  symbolOf (path : Files.Path) (about : Option String) (symbols : List (String × Symbol)) :
      Except LoadError Symbol :=
    let own := (special "file", Symbol.constant (.str path.text))
    match (symbols ++ own :: commonSymbols path.name "" about).lookup name with
    | some symbol => .ok symbol
    | none => .error (.notDefined path name)

end Library

end Switchboard.Functions
