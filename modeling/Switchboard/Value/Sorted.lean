import Switchboard.Value.Number

/-!
The order of keys, sorting by an order that need not hold between any two things, and values with
their mappings in key order.

`sortBy` compares only what it has to and gives up at the first two things that cannot be compared.
What it compares is fixed: it looks for a run that is in order already, forwards or strictly
backwards, and then puts each further thing behind the last one that it does not come before, found
by halving. So the two things named when it gives up are always the same ones.

Sorted values have their mappings in key order at every depth. Two values that differ in key order alone
have the same sorted form, so whatever is written from the sorted form does not depend on that order.
-/
namespace Switchboard

/-- Two keys that have no order. -/
inductive Incomparable where
  | kinds (left right : String)
  | moments (left right : String)
  | offsets
  deriving DecidableEq

/-- The message for it. -/
def Incomparable.message : Incomparable → String
  | .kinds left right =>
    "'<' not supported between instances of '" ++ left ++ "' and '" ++ right ++ "'"
  | .moments left right => "can't compare " ++ left ++ " to " ++ right
  | .offsets => "can't compare offset-naive and offset-aware datetimes"

/-- The parts of a point in time from the largest to the smallest. -/
def Moment.parts (m : Moment) : List Nat :=
  [m.year, m.month, m.day]
    ++ (match m.clock with
      | some c => [c.hour, c.minute, c.second, c.micros]
      | none => [])

/-- Whether one list of numbers comes before another, by the first difference. -/
def isBeforeInParts : List Nat → List Nat → Bool
  | a :: as, b :: bs => a < b || (a = b && isBeforeInParts as bs)
  | [], b => !b.isEmpty
  | _ :: _, [] => false

/-- Whether one point in time lies before another. -/
def Moment.isBefore (a b : Moment) : Except Incomparable Bool :=
  match a.clock, b.clock with
  | none, none => .ok (isBeforeInParts a.parts b.parts)
  | some c, some d =>
    if c.offset.isSome = d.offset.isSome then
      .ok (isBeforeInParts a.universal.parts b.universal.parts)
    else .error .offsets
  | _, _ => .error (.moments "datetime.datetime" "datetime.date")

/-- Whether one key comes before another: texts by their characters, numbers by size, bytes and points
in time by their parts. -/
def Key.isBefore (a b : Key) : Except Incomparable Bool :=
  match a, b with
  | .text s, .text t => .ok (decide (s < t))
  | .moment m, .moment n => m.isBefore n
  | .bytes s, .bytes t => .ok (isBeforeInParts (s.map UInt8.toNat) (t.map UInt8.toNat))
  | a, b =>
    let number? (k : Key) : Option Value :=
      match k.canonical with
      | .int i => some (.int i)
      | .float x => some (.float x)
      | _ => none
    match number? a, number? b with
    | some x, some y => .ok (x.isLess y)
    | _, _ => .error (.kinds a.toValue.typeName b.toValue.typeName)

namespace Sorting

variable {α ε : Type} (less : α → α → Except ε Bool)

/-- The longest run at the start of a list in which each thing comes before the one in front of it, if
`descending`, and none does otherwise. -/
def run (descending : Bool) (last : α) : List α → Except ε (List α × List α)
  | [] => .ok ([], [])
  | a :: rest => do
    if (← less a last) = descending then
      let (more, rest) ← run descending a rest
      return (a :: more, rest)
    else return ([], a :: rest)

/-- The number of things in `sorted` between the positions `low` and `low + width` that `a` does not
come before, counted from the start. -/
def place (a : α) (sorted : List α) : (fuel low width : Nat) → Except ε Nat
  | 0, low, _ => .ok low
  | fuel + 1, low, width =>
    if width = 0 then .ok low
    else
      let middle := low + width / 2
      match sorted[middle]? with
      | none => .ok low
      | some b => do
        if ← less a b then place a sorted fuel low (width / 2)
        else place a sorted fuel (middle + 1) (width - width / 2 - 1)

/-- Puts things one by one into a list in order. -/
def insertAll (sorted : List α) : List α → Except ε (List α)
  | [] => .ok sorted
  | a :: rest => do
    let k ← place less a sorted sorted.length 0 sorted.length
    insertAll (sorted.take k ++ a :: sorted.drop k) rest

/-- A list in order. -/
def sortBy : List α → Except ε (List α)
  | a :: b :: rest => do
    let descending ← less b a
    let (more, rest) ← run less descending b rest
    let start := a :: b :: more
    insertAll less (if descending then start.reverse else start) rest
  | as => .ok as

end Sorting

namespace Members

variable {α : Type}

/-- Whether all keys are texts. -/
def haveTextKeys (members : List (Key × α)) : Bool :=
  members.all fun (k, _) => match k with | .text _ => true | _ => false

/-- Whether one key comes before another, both being texts. -/
def precedes : Key → Key → Bool
  | .text a, .text b => a < b
  | _, _ => false

/-- Puts a member in front of the first one that does not precede it. -/
def insertSorted (member : Key × α) : List (Key × α) → List (Key × α)
  | [] => [member]
  | other :: rest =>
    if precedes other.1 member.1 then other :: insertSorted member rest
    else member :: other :: rest

/-- Members with text keys in key order. -/
def sortTexts : List (Key × α) → List (Key × α)
  | [] => []
  | member :: rest => insertSorted member (sortTexts rest)

/-- Members in key order, if there is one. -/
def sort (members : List (Key × α)) : Except Incomparable (List (Key × α)) :=
  if haveTextKeys members then .ok (sortTexts members)
  else Sorting.sortBy (fun a b => a.1.isBefore b.1) members

end Members

namespace Value

mutual

/-- A value with every mapping and set in it in key order; where keys have no order, they stay. -/
def sorted : Value → Value
  | .list items => .list (sortedItems items)
  | .tuple items => .tuple (sortedItems items)
  | .object members =>
    let members := sortedMembers members
    .object (match Members.sort members with | .ok ordered => ordered | .error _ => members)
  | .set keys =>
    .set (match Sorting.sortBy Key.isBefore keys with | .ok ordered => ordered | .error _ => keys)
  | v => v

/-- `sorted` on the items of a list. -/
def sortedItems : List Value → List Value
  | [] => []
  | v :: rest => sorted v :: sortedItems rest

/-- `sorted` on the values of members. -/
def sortedMembers : List (Key × Value) → List (Key × Value)
  | [] => []
  | (k, v) :: rest => (k, sorted v) :: sortedMembers rest

end

end Value

end Switchboard
