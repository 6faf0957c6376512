import Switchboard.Text.Base64
import Switchboard.Yaml.Merge

/-!
The values of YAML documents.

A node is built by its tag. Scalars have their values at once; a collection starts empty and is filled
later, in the order in which the collections were met, so that a collection may hold itself, and so
that of two faults the one nearer to the root is found first. `Graph.value` is the value of a graph,
and `Yaml.read` that of a whole text.
-/
namespace Switchboard.Yaml

/-- What a node was built into: a value, or a collection of other nodes by their places. -/
inductive Cell where
  | leaf (v : Value)
  | list (items : List Nat)
  | pairs (items : List (Nat × Nat))
  | set (keys : List Key)
  | mapping (members : List (Key × Nat))

/-- The kinds of collections. -/
inductive Kind where
  | list
  | pairs
  | set
  | mapping
  deriving DecidableEq

/-- The kind of collection that a tag asks for. -/
def Kind.ofTag? (tag : String) : Option Kind :=
  [("seq", Kind.list), ("omap", .pairs), ("pairs", .pairs), ("set", .set), ("map", .mapping)].findSome?
    fun (name, kind) => if Tag.standard ++ name = tag then some kind else none

/-- A collection before it is filled. -/
def Kind.empty : Kind → Cell
  | .list => .list []
  | .pairs => .pairs []
  | .set => .set []
  | .mapping => .mapping []

/-- The form whose scalars have a tag. -/
def formOf? (tag : String) : Option Form :=
  [Form.null, .bool, .int, .float, .moment, .merge, .equals, .reserved, .text].find?
    fun form => Tag.ofForm form == tag

/-- The graph, what its nodes were built into, and the collections still to be filled, in order. -/
structure Building where
  graph : Graph
  cells : Array (Option Cell)
  waiting : List (Nat × Kind)

namespace Building

/-- What a node was built into, if it was. -/
def cell? (b : Building) (place : Nat) : Option Cell := (b.cells[place]?).join

/-- Notes what a node was built into. -/
def put (b : Building) (place : Nat) (cell : Cell) : Building :=
  { b with cells := b.cells.setIfInBounds place (some cell) }

/-- The text of a scalar. A mapping with the equals sign as a key stands for the value under it. -/
def text (graph : Graph) : (fuel place : Nat) → Result String
  | 0, _ => faulty .enclosedText
  | fuel + 1, place =>
    match (graph.node place).content with
    | .scalar text => .ok text
    | .sequence _ => faulty .contentKind
    | .mapping pairs =>
      match pairs.find? fun (key, _) => (graph.node key).tag == Tag.ofForm .equals with
      | some (_, value) => text graph fuel value
      | none => faulty .contentKind

/-- The value of a scalar by its form. -/
def scalar (graph : Graph) (place : Nat) (form : Form) : Result Value := do
  let read {α : Type} (r : Except ScalarError α) (wrap : α → Value) : Result Value :=
    match r with
    | .ok a => .ok (wrap a)
    | .error e => .error (.scalar e)
  let text : Result String := text graph (graph.size + 1) place
  match form with
  | .null => return (fun _ => .null) (← text)
  | .bool => read (readBool (← text)) .bool
  | .int => read (readInt (← text)) .int
  | .float => read (readFloat (← text)) .float
  | .moment =>
    let written ← text
    match (graph.node place).content with
    | .scalar _ => read (readMoment written) .moment
    | _ => .error (.scalar (.momentOfCollection "list"))
  | .text => return .str (← text)
  | .merge | .equals | .reserved => faulty .unknownTag

/-- The bytes that a scalar writes in base 64. -/
def bytes (graph : Graph) (place : Nat) : Result Value := do
  let written ← text graph (graph.size + 1) place
  match Text.Base64.decode? written.toList with
  | some data => return .bytes data
  | none => faulty .base64

/-- Builds a node, unless it is built: a scalar in full, a collection empty. -/
def start (b : Building) (place : Nat) : Result Building := do
  if (b.cell? place).isSome then return b
  let tag := (b.graph.node place).tag
  match Kind.ofTag? tag with
  | some kind => return { b.put place kind.empty with waiting := b.waiting ++ [(place, kind)] }
  | none =>
    if tag = Tag.standard ++ "binary" then return b.put place (.leaf (← bytes b.graph place))
    else
      match formOf? tag with
      | some form => return b.put place (.leaf (← scalar b.graph place form))
      | none => faulty .unknownTag

/-- Builds several nodes. -/
def startAll (b : Building) (places : List Nat) : Result Building := places.foldlM start b

/-- A node as a key; collections cannot be keys. -/
def key (b : Building) (place : Nat) : Result Key :=
  match b.cell? place with
  | some (.leaf v) =>
    match Key.ofValue? v with
    | some key => .ok key
    | none => faulty .keyKind
  | _ => faulty .keyKind

/-- The members of a mapping, added one by one. -/
def members : (pairs : List (Nat × Nat)) → (found : List (Key × Nat)) → Building →
    Result (List (Key × Nat) × Building)
  | [], found, b => .ok (found, b)
  | (k, v) :: rest, found, b => do
    let b ← b.start k
    let key ← b.key k
    let b ← b.start v
    members rest (Members.insert key v found) b

/-- The pairs of a list of mappings with one pair each. -/
def singles : (items : List Nat) → Building → Result (List (Nat × Nat) × Building)
  | [], b => .ok ([], b)
  | place :: rest, b => do
    match b.graph.pairs? place with
    | some [(k, v)] =>
      let b ← b.startAll [k, v]
      let (found, b) ← singles rest b
      return ((k, v) :: found, b)
    | _ => faulty .contentKind

/-- Fills a collection with what its node is made of. -/
def fill (b : Building) (place : Nat) (kind : Kind) : Result Building := do
  match kind, (b.graph.node place).content with
  | .list, .sequence items => return (← b.startAll items).put place (.list items)
  | .pairs, .sequence items =>
    let (found, b) ← singles items b
    return b.put place (.pairs found)
  | .mapping, .mapping _ | .set, .mapping _ =>
    let b := { b with graph := ← b.graph.merge place }
    let (found, b) ← members ((b.graph.pairs? place).getD []) [] b
    return b.put place (if kind = .set then .set (found.map (·.1)) else .mapping found)
  | _, _ => faulty .contentKind

/-- Fills the waiting collections, and those that come up meanwhile. -/
def finish : (fuel : Nat) → Building → Result Building
  | 0, b => .ok b
  | fuel + 1, b =>
    match b.waiting with
    | [] => .ok b
    | (place, kind) :: rest => do
      let b ← fill { b with waiting := rest } place kind
      finish fuel b

/-- The value of a node; `path` are the places of the collections around it. -/
def value (b : Building) : (fuel : Nat) → (path : List Nat) → (place : Nat) → Value
  | 0, _, _ => .null
  | fuel + 1, path, place =>
    match b.cell? place with
    | none => .null
    | some (.leaf v) => v
    | some (.set keys) => .set keys
    | some (.list items) =>
      if place ∈ path then .enclosing false else .list (items.map fun i => value b fuel (place :: path) i)
    | some (.pairs items) =>
      if place ∈ path then .enclosing false
      else .list (items.map fun (k, v) =>
        .tuple [value b fuel (place :: path) k, value b fuel (place :: path) v])
    | some (.mapping members) =>
      if place ∈ path then .enclosing true
      else .object (members.map fun (k, i) => (k, value b fuel (place :: path) i))

end Building

/-- The value of a document; `root` is the place of its outermost node. -/
def Graph.value (graph : Graph) (root : Nat) : Result Value := do
  let b : Building := ⟨graph, Array.replicate graph.size none, []⟩
  let b ← (← b.start root).finish (graph.size + 1)
  return b.value (graph.size + 1) [] root

/-- The value of a text; a text without a document is null. -/
def read (dialect : Dialect) (s : String) : Result Value := do
  let (ts, stop) := tokens dialect s.toList
  match ← Graph.ofTokens dialect ts stop with
  | none => return .null
  | some (graph, root) => graph.value root

end Switchboard.Yaml
