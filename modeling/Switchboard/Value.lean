import Switchboard.Decimal.Binary

/-!
The data that flows through the program: payloads, templates, schemas, handler outputs and settings.

A `Value` is what a JSON document can hold, together with the few further kinds that a settings file
can bring in (calendar dates, bytes, tuples, sets, mappings with keys that are not text) and two
leaves for what is not a tree: `shared` stands for a growing collection of a chain run, because an
output may hold the list that it is about to be added to, and `enclosing` for a collection met again
inside itself. Mappings keep the order in which their keys were first added. Keys are told apart by
`Key.canonical`, so that one, one point zero and true are a single key.
-/
namespace Switchboard

/-- A time of day, with the offset from universal time in minutes when one is known. -/
structure Clock where
  hour : Nat
  minute : Nat
  second : Nat
  micros : Nat
  offset : Option Int
  deriving DecidableEq

/-- A calendar date, or a point in time when it has a clock. -/
structure Moment where
  year : Nat
  month : Nat
  day : Nat
  clock : Option Clock
  deriving DecidableEq

/-- The number of days of a month. -/
def daysOfMonth (year month : Nat) : Nat :=
  if month = 2 then
    if year % 4 = 0 && (year % 100 != 0 || year % 400 = 0) then 29 else 28
  else if month ∈ [4, 6, 9, 11] then 30
  else 31

namespace Moment

/-- The day before, or the day after. -/
def shiftDay (forward : Bool) (m : Moment) : Moment :=
  if forward then
    if m.day < daysOfMonth m.year m.month then { m with day := m.day + 1 }
    else if m.month < 12 then { m with month := m.month + 1, day := 1 }
    else { m with year := m.year + 1, month := 1, day := 1 }
  else if 1 < m.day then { m with day := m.day - 1 }
  else if 1 < m.month then { m with month := m.month - 1, day := daysOfMonth m.year (m.month - 1) }
  else { m with year := m.year - 1, month := 12, day := 31 }

/-- The same point in time as universal time shows it, if the offset is known. -/
def universal (m : Moment) : Moment :=
  match m.clock with
  | some c =>
    match c.offset with
    | some offset =>
      let minutes : Int := c.hour * 60 + c.minute - offset
      let moved : Moment :=
        if minutes < 0 then m.shiftDay false
        else if minutes < 1440 then m
        else m.shiftDay true
      let minuteOfDay := (minutes % 1440).toNat
      { moved with
        clock := some { c with hour := minuteOfDay / 60, minute := minuteOfDay % 60, offset := some 0 } }
    | none => m
  | none => m

end Moment

/-- A key of a mapping. -/
inductive Key where
  | text (s : String)
  | null
  | bool (b : Bool)
  | int (i : Int)
  | float (x : Float)
  | moment (m : Moment)
  | bytes (data : List UInt8)
  deriving DecidableEq

/-- The key that stands for all keys equal to a key: numbers and truth values count by their value, and
points in time with a known offset by the instant. -/
def Key.canonical : Key → Key
  | .bool b => .int (if b then 1 else 0)
  | .float x =>
    match Decimal.toInt? x with
    | some i => .int i
    | none => .float x
  | .moment m => .moment m.universal
  | key => key

/-- The two collections that grow while a chain runs: all outputs in order, and those of the named
steps by name. -/
inductive Ledger where
  | outputs
  | named
  deriving DecidableEq

/-- A datum. `foreign` is a datum of a kind that has no written form, known by the word for its kind;
`shared run ledger` is the collection `ledger` of the chain run with the number `run`, with whatever
it holds when it is looked at; `enclosing` is a list, or a mapping, that this place lies inside. -/
inductive Value where
  | null
  | bool (b : Bool)
  | int (i : Int)
  | float (x : Float)
  | str (s : String)
  | list (items : List Value)
  | tuple (items : List Value)
  | set (keys : List Key)
  | object (members : List (Key × Value))
  | moment (m : Moment)
  | bytes (data : List UInt8)
  | foreign (kind : String)
  | shared (run : Nat) (ledger : Ledger)
  | enclosing (isMapping : Bool)

instance : Inhabited Value := ⟨.null⟩

/-- A key as a value. -/
def Key.toValue : Key → Value
  | .text s => .str s
  | .null => .null
  | .bool b => .bool b
  | .int i => .int i
  | .float x => .float x
  | .moment m => .moment m
  | .bytes data => .bytes data

/-- A value as a key; collections cannot be keys. -/
def Key.ofValue? : Value → Option Key
  | .str s => some (.text s)
  | .null => some .null
  | .bool b => some (.bool b)
  | .int i => some (.int i)
  | .float x => some (.float x)
  | .moment m => some (.moment m)
  | .bytes data => some (.bytes data)
  | _ => none

instance : Coe String Key := ⟨.text⟩

/-- Replaces the text of a key by its image. -/
def Key.mapText (f : String → String) : Key → Key
  | .text s => .text (f s)
  | key => key

namespace Members

/-- The value under a key. -/
def get? {α : Type} (key : Key) : List (Key × α) → Option α
  | [] => none
  | (k, v) :: rest => if k.canonical = key.canonical then some v else get? key rest

/-- Puts a value under a key: a key that is present keeps its place and its form, a new one comes
last. -/
def insert {α : Type} (key : Key) (value : α) : List (Key × α) → List (Key × α)
  | [] => [(key, value)]
  | (k, v) :: rest =>
    if k.canonical = key.canonical then (k, value) :: rest else (k, v) :: insert key value rest

/-- Whether a key is present. -/
def contains {α : Type} (key : Key) (members : List (Key × α)) : Bool := (get? key members).isSome

/-- Members read one after the other, a later value replacing an earlier one in its place. -/
def ofList {α : Type} (pairs : List (Key × α)) : List (Key × α) :=
  pairs.foldl (fun acc (k, v) => insert k v acc) []

end Members

namespace Value

/-- A mapping from text keys. -/
def ofFields (fields : List (String × Value)) : Value :=
  .object (fields.map fun (name, v) => (.text name, v))

/-- The value under a text key of a mapping. -/
def get? (v : Value) (name : String) : Option Value :=
  match v with
  | .object members => Members.get? (.text name) members
  | _ => none

/-- Whether a value counts as set: null, false, zero and whatever is empty do not. -/
def isSet : Value → Bool
  | .null => false
  | .bool b => b
  | .int i => i != 0
  | .float x => x != 0.0
  | .str s => !s.isEmpty
  | .list items | .tuple items => !items.isEmpty
  | .set keys => !keys.isEmpty
  | .object members => !members.isEmpty
  | .bytes data => !data.isEmpty
  | .moment _ | .foreign _ | .shared _ _ | .enclosing _ => true

/-- The word for the kind of a value in messages. -/
def kindName : Value → String
  | .null => "NoneType"
  | .bool _ => "bool"
  | .int _ => "int"
  | .float _ => "float"
  | .str _ => "str"
  | .list _ | .shared _ .outputs | .enclosing false => "list"
  | .tuple _ => "tuple"
  | .set _ => "set"
  | .object _ | .shared _ .named | .enclosing true => "dict"
  | .moment m => if m.clock.isSome then "datetime" else "date"
  | .bytes _ => "bytes"
  | .foreign kind => kind

/-- The word for the kind of a value with the library it belongs to, where that is not the usual
one. -/
def typeName (v : Value) : String :=
  match v with
  | .moment _ => "datetime." ++ v.kindName
  | v => v.kindName

mutual

/-- Replaces every text by its image, but for the keys of mappings, which stay. What becomes the same in
a set is in it once. -/
def mapText (f : String → String) : Value → Value
  | .str s => .str (f s)
  | .list items => .list (mapTextItems f items)
  | .tuple items => .tuple (mapTextItems f items)
  | .set keys => .set (keys.map (Key.mapText f)).eraseDups
  | .object members => .object (mapTextMembers f members)
  | v => v

/-- `mapText` on the items of a list. -/
def mapTextItems (f : String → String) : List Value → List Value
  | [] => []
  | v :: rest => mapText f v :: mapTextItems f rest

/-- `mapText` on the members of a mapping. -/
def mapTextMembers (f : String → String) : List (Key × Value) → List (Key × Value)
  | [] => []
  | (k, v) :: rest => (k, mapText f v) :: mapTextMembers f rest

end

end Value

end Switchboard
