import Switchboard.Value.Number

/-!
When two data are the same for a schema: numbers by their value, truth values only with each other,
sequences item by item whatever their kind, and mappings whatever the order of their keys.
-/
namespace Switchboard.Schema

/-- Whether items are the numbers of bytes. -/
def areBytes (items : List Value) (data : List UInt8) : Bool :=
  items.length == data.length && (items.zip data).all fun (v, b) => v.isSameNumber (.int b.toNat)

/-- Whether two sets have the same elements. -/
def sameSets (as bs : List Key) : Bool :=
  let within (xs ys : List Key) : Bool := xs.all fun x => ys.any (·.canonical = x.canonical)
  within as bs && within bs as

mutual

/-- Whether two values are the same. -/
def same : Value → Value → Bool
  | .null, .null => true
  | .bool a, .bool b => a == b
  | .str a, .str b => a == b
  | .moment a, .moment b => a.universal == b.universal
  | .bytes a, .bytes b => a == b
  | .list as, .list bs | .list as, .tuple bs | .tuple as, .list bs | .tuple as, .tuple bs =>
    sameItems as bs
  | .list items, .bytes data | .tuple items, .bytes data | .bytes data, .list items
  | .bytes data, .tuple items => areBytes items data
  | .set as, .set bs => sameSets as bs
  | .object as, .object bs => as.length == bs.length && sameMembers as bs
  | a, b => a.isNumber && b.isNumber && a.isSameNumber b

/-- Whether two lists are the same item by item. -/
def sameItems : List Value → List Value → Bool
  | [], [] => true
  | a :: as, b :: bs => same a b && sameItems as bs
  | _, _ => false

/-- Whether each member is the same in another mapping. -/
def sameMembers : List (Key × Value) → List (Key × Value) → Bool
  | [], _ => true
  | (k, a) :: as, bs =>
    (match Members.get? k bs with
      | some b => same a b
      | none => false)
    && sameMembers as bs

end

/-- A truth value as the number that it is compared as inside of lists. -/
def asNumber : Value → Value
  | .bool b => .int (if b then 1 else 0)
  | v => v

mutual

/-- Whether two values are the same when truth values count as numbers. -/
def alike (a b : Value) : Bool :=
  match a, b with
  | .list as, .list bs => alikeItems as bs
  | .object _, _ | .list _, _ => same a b
  | a, b => same (asNumber a) (asNumber b)

/-- `alike` item by item. -/
def alikeItems : List Value → List Value → Bool
  | [], [] => true
  | a :: as, b :: bs => alike a b && alikeItems as bs
  | _, _ => false

end

mutual

/-- Whether a value comes before another, if the two can be ordered: numbers, texts, and lists by
their first difference. -/
def precedes? : Value → Value → Option Bool
  | .str a, .str b => some (decide (a < b))
  | .list as, .list bs => precedesItems? as bs
  | a, b =>
    if (asNumber a).isNumber && (asNumber b).isNumber then some ((asNumber a).isLess (asNumber b))
    else none

/-- `precedes?` at the first difference of two lists; the shorter one comes first. -/
def precedesItems? : List Value → List Value → Option Bool
  | [], bs => some (!bs.isEmpty)
  | _ :: _, [] => some false
  | a :: as, b :: bs => if alike a b then precedesItems? as bs else precedes? a b

end

/-- Puts a value behind those in order that do not come after it. -/
def insertInOrder? (v : Value) : List Value → Option (List Value)
  | [] => some [v]
  | w :: rest =>
    match v, w with
    | .bool _, _ | _, .bool _ => none
    | v, w => do
      if ← precedes? v w then return v :: w :: rest
      else return w :: (← insertInOrder? v rest)

/-- Values in order, if they can be ordered. -/
def inOrder? (vs : List Value) : Option (List Value) :=
  vs.foldlM (fun sorted v => insertInOrder? v sorted) []

/-- Whether no value is the same as its neighbour. -/
def neighboursDiffer : List Value → Bool
  | a :: b :: rest => !same a b && neighboursDiffer (b :: rest)
  | _ => true

/-- Whether no two values are the same. -/
def allDiffer : List Value → Bool
  | [] => true
  | a :: rest => !rest.any (same a) && allDiffer rest

/-- Whether a list counts as free of repetitions. Values that can be ordered are compared with their
neighbours in order, others each with each. -/
def isUnique (vs : List Value) : Bool :=
  match inOrder? vs with
  | some sorted => neighboursDiffer sorted
  | none => allDiffer vs

end Switchboard.Schema
