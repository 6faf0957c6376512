import Switchboard.Value.Literal
import Switchboard.Value.Sorted

/-!
JSON texts of values.

One writer serves three layouts: the spaced one-line text, the compact text of responses and the
indented text of prompts. What has no JSON text is refused with the first cause met in reading order.
-/
namespace Switchboard.Json

/-- Why a value has no JSON text. -/
inductive WriteError where
  | notFinite
  | circular
  | badKey (kind : String)
  | unsupported (kind : String)
  | tooManyDigits
  | unordered (cause : Incomparable)
  deriving DecidableEq

/-- What a message says about it. -/
def WriteError.message : WriteError → String
  | .notFinite => "Out of range float values are not JSON compliant"
  | .circular => "Circular reference detected"
  | .badKey kind => "keys must be str, int, float, bool or None, not " ++ kind
  | .unsupported kind => "Object of type " ++ kind ++ " is not JSON serializable"
  | .tooManyDigits =>
    "Exceeds the limit (4300 digits) for integer string conversion; "
      ++ "use sys.set_int_max_str_digits() to increase the limit"
  | .unordered cause => cause.message

/-- How a text is laid out. `indent` is the width of one level when items stand on lines of their
own; `inOrder` says whether members stand in the order of their keys. -/
structure Layout where
  itemSep : String
  keySep : String
  indent : Option Nat
  ascii : Bool
  allowNotFinite : Bool
  inOrder : Bool

/-- One line with a space after each separator, in ASCII. -/
def Layout.spaced : Layout := ⟨", ", ": ", none, true, true, false⟩

/-- No blanks at all; other scripts stand as they are, and only finite numbers are allowed. -/
def Layout.compact : Layout := ⟨",", ":", none, false, false, false⟩

/-- Two columns a level, in ASCII, with members in key order. -/
def Layout.indented : Layout := ⟨",", ": ", some 2, true, true, true⟩

/-- The longest integer, in digits, that has a text. -/
def maxDigits : Nat := 4300

/-- The text of an integer, unless it is too long. -/
def intText (i : Int) : Except WriteError String :=
  if i.natAbs < Nat.pow 10 maxDigits then .ok (toString i) else .error .tooManyDigits

/-- Four hexadecimal digits behind `\u`. -/
def unitEscape (n : Nat) : List Char := '\\' :: 'u' :: Text.hex 4 n

/-- A character inside a JSON string. In ASCII texts whatever is not printable ASCII is escaped, and a
character beyond the first plane is two units. -/
def escape (ascii : Bool) (c : Char) : List Char :=
  if c = '"' then ['\\', '"']
  else if c = '\\' then ['\\', '\\']
  else if c = '\n' then ['\\', 'n']
  else if c = '\r' then ['\\', 'r']
  else if c = '\t' then ['\\', 't']
  else if c = '\x08' then ['\\', 'b']
  else if c = '\x0c' then ['\\', 'f']
  else if c.toNat < 0x20 then unitEscape c.toNat
  else if !ascii || c.toNat < 0x7F then [c]
  else if c.toNat < 0x10000 then unitEscape c.toNat
  else
    let n := c.toNat - 0x10000
    unitEscape (0xD800 + n / 0x400) ++ unitEscape (0xDC00 + n % 0x400)

/-- A JSON string. -/
def stringText (ascii : Bool) (s : String) : String :=
  String.ofList ('"' :: s.toList.flatMap (escape ascii) ++ ['"'])

/-- The text of a double; the three that are not finite have names. -/
def numberText (layout : Layout) (x : Float) : Except WriteError String :=
  if x.isFinite then .ok (floatText x)
  else if !layout.allowNotFinite then .error .notFinite
  else .ok (Decimal.floatText ⟨-4, 16, false, "Infinity", "-Infinity", "NaN"⟩ x)

/-- The text of a key, which is a JSON string whatever the kind of the key. -/
def keyText (layout : Layout) : Key → Except WriteError String
  | .text s => .ok (stringText layout.ascii s)
  | .null => .ok "\"null\""
  | .bool b => .ok (if b then "\"true\"" else "\"false\"")
  | .int i => (intText i).map fun s => "\"" ++ s ++ "\""
  | .float x => (numberText layout x).map fun s => "\"" ++ s ++ "\""
  | k =>
    let v := k.toValue
    .error (.badKey (if layout.indent.isSome then v.kindName else v.typeName))

/-- A line break and the indentation of `level`, if items stand on lines of their own. -/
def Layout.break (layout : Layout) (level : Nat) : String :=
  match layout.indent with
  | none => ""
  | some width => String.ofList ('\n' :: List.replicate (width * level) ' ')

/-- The texts of items between two brackets. -/
def enclose (layout : Layout) (level : Nat) (opening closing : String) (items : List String) :
    String :=
  if items.isEmpty then opening ++ closing
  else
    opening ++ layout.break (level + 1)
      ++ Text.join (layout.itemSep ++ layout.break (level + 1)) items
      ++ layout.break level ++ closing

mutual

/-- The JSON text of a value at a depth. -/
def write (layout : Layout) (level : Nat) : Value → Except WriteError String
  | .null => .ok "null"
  | .bool b => .ok (if b then "true" else "false")
  | .int i => intText i
  | .float x => numberText layout x
  | .str s => .ok (stringText layout.ascii s)
  | .list items | .tuple items => do
    let texts ← writeItems layout (level + 1) items
    return enclose layout level "[" "]" texts
  | .object members => do
    let written := writeMembers layout (level + 1) members
    let written ← if layout.inOrder then (Members.sort written).mapError .unordered else pure written
    let texts ← written.mapM (·.2)
    return enclose layout level "\x7b" "\x7d" texts
  | .shared _ _ | .enclosing _ => .error .circular
  | v => .error (.unsupported v.kindName)

/-- The texts of list items. -/
def writeItems (layout : Layout) (level : Nat) : List Value → Except WriteError (List String)
  | [] => .ok []
  | v :: rest => do
    let first ← write layout level v
    return first :: (← writeItems layout level rest)

/-- The texts of members by their keys, as far as they have texts. -/
def writeMembers (layout : Layout) (level : Nat) :
    List (Key × Value) → List (Key × Except WriteError String)
  | [] => []
  | (k, v) :: rest =>
    let member : Except WriteError String := do
      let key ← keyText layout k
      let value ← write layout level v
      return key ++ layout.keySep ++ value
    (k, member) :: writeMembers layout level rest

end

/-- The one-line text of a value. -/
def text (v : Value) : Except WriteError String := write .spaced 0 v

/-- The text of a value in a response body. -/
def compactText (v : Value) : Except WriteError String := write .compact 0 v

end Switchboard.Json
