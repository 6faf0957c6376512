import Switchboard.Yaml.Token

/-!
The nodes of a YAML document: scalars, sequences and mappings with their tags.

Nodes stand in a `Graph` and name their parts by places in it, since an alias makes one node a part of
several, and may make it a part of itself. `Graph.ofTokens` reads the one document of a text.
-/
namespace Switchboard.Yaml

/-- What a node is made of: a text, or the places of other nodes. -/
inductive Content where
  | scalar (text : String)
  | sequence (items : List Nat)
  | mapping (pairs : List (Nat × Nat))

/-- A node of a document. -/
structure Node where
  tag : String
  content : Content

instance : Inhabited Node := ⟨⟨"", .scalar ""⟩⟩

/-- The nodes of a document by their places. -/
abbrev Graph := Array Node

namespace Tag

/-- What the standard tags start with. -/
def standard : String := "tag:yaml.org,2002:"

/-- The tag of plain scalars of a form. -/
def ofForm : Form → String
  | .null => standard ++ "null"
  | .bool => standard ++ "bool"
  | .int => standard ++ "int"
  | .float => standard ++ "float"
  | .moment => standard ++ "timestamp"
  | .merge => standard ++ "merge"
  | .equals => standard ++ "value"
  | .reserved => standard ++ "yaml"
  | .text => standard ++ "str"

/-- The tag of a text. -/
def str : String := ofForm .text

/-- The tag of a sequence. -/
def seq : String := standard ++ "seq"

/-- The tag of a mapping. -/
def map : String := standard ++ "map"

/-- The handles that need no directive. -/
def handles : List (String × String) := [("!", "!"), ("!!", standard)]

end Tag

/-- What is left of the tokens, what comes behind them, the dialect, the handles in force, the nodes so
far, and the places that anchors name. -/
structure Stream where
  tokens : List Token
  stop : Option ReadError
  dialect : Dialect
  handles : List (String × String)
  graph : Graph
  anchors : List (String × Nat)

namespace Stream

/-- The next token, if the text goes on. -/
def peek (s : Stream) : Result (Option Token) :=
  match s.tokens, s.stop with
  | t :: _, _ => .ok (some t)
  | [], some e => .error e
  | [], none => .ok none

/-- The stream behind the next token. -/
def pop (s : Stream) : Stream := { s with tokens := s.tokens.tail }

/-- Whether the next token is one of a list. -/
def isAt (s : Stream) (ts : List Token) : Result Bool := do
  match ← s.peek with
  | some t => return decide (t ∈ ts)
  | none => return false

/-- An anchor and a tag in front of a node, in either order. -/
def takeProperties (s : Stream) :
    Result ((Option String × Option (Option String × String)) × Stream) := do
  match ← s.peek with
  | some (.anchor name) =>
    match ← s.pop.peek with
    | some (.tag handle text) => return ((some name, some (handle, text)), s.pop.pop)
    | _ => return ((some name, none), s.pop)
  | some (.tag handle text) =>
    match ← s.pop.peek with
    | some (.anchor name) => return ((some name, some (handle, text)), s.pop.pop)
    | _ => return ((none, some (handle, text)), s.pop)
  | _ => return ((none, none), s)

/-- A written tag in full. -/
def resolveTag (s : Stream) : Option (Option String × String) → Result (Option String)
  | none => .ok none
  | some (none, text) => .ok (some text)
  | some (some handle, text) =>
    match s.handles.lookup handle with
    | some replacement => .ok (some (replacement ++ text))
    | none => faulty .undefinedHandle

/-- The place of the node that an alias stands for. -/
def lookup (s : Stream) (name : String) : Result Nat :=
  match s.anchors.lookup name with
  | some place => .ok place
  | none => faulty .undefinedAlias

/-- Adds a node, and gives its place. -/
def add (s : Stream) (node : Node) : Nat × Stream :=
  (s.graph.size, { s with graph := s.graph.push node })

/-- Takes a place for a node whose parts are not yet known; the name of its anchor must be new. -/
def reserve (s : Stream) (anchor : Option String) : Result (Nat × Stream) :=
  let (place, s) := s.add default
  match anchor with
  | none => .ok (place, s)
  | some name =>
    if (s.anchors.lookup name).isSome then faulty .repeatedAnchor
    else .ok (place, { s with anchors := (name, place) :: s.anchors })

/-- Puts a node in the place taken for it. -/
def complete (s : Stream) (place : Nat) (node : Node) : Stream :=
  { s with graph := s.graph.setIfInBounds place node }

end Stream

/-- A scalar with no text, where a node was left out. -/
def absent : Node := ⟨Tag.ofForm .null, .scalar ""⟩

/-- A scalar; without a tag a plain one is of the kind of its form, and so is any with the tag `!`. -/
def scalarNode (tag : Option String) (text : String) (plain : Bool) : Node :=
  let byForm := Tag.ofForm (classify text)
  match tag with
  | some "!" => ⟨byForm, .scalar text⟩
  | some tag => ⟨tag, .scalar text⟩
  | none => ⟨if plain then byForm else Tag.str, .scalar text⟩

/-- What an anchor or a tag stands in front of if the rest of the node was left out. In front of
prompts the tag `!` makes it a text. -/
def emptyNode (dialect : Dialect) (tag : Option String) : Node :=
  if dialect = .tabbed && tag = some "!" then ⟨Tag.str, .scalar ""⟩ else scalarNode tag "" true

/-- The tag of a collection. -/
def collectionTag (usual : String) : Option String → String
  | some "!" => usual
  | some tag => tag
  | none => usual

/-- Where a node stands: outside brackets, there also as the value of a key, or inside brackets. -/
inductive Spot where
  | block
  | blockValue
  | flow
  deriving DecidableEq

/-- Passes a comma. -/
def takeComma (s : Stream) : Result Stream := do
  if ← s.isAt [.comma] then return s.pop else faulty .unexpected

mutual

/-- A node; the result is its place. -/
def takeNode (spot : Spot) : (fuel : Nat) → Stream → Result (Nat × Stream)
  | 0, _ => faulty .unexpected
  | fuel + 1, s => do
    match ← s.peek with
    | some (.alias name) => return (← s.lookup name, s.pop)
    | _ =>
      let ((anchor, written), s) ← s.takeProperties
      let tag ← s.resolveTag written
      let (place, s) ← s.reserve anchor
      let (node, s) ← takeContent spot fuel (anchor.isSome || written.isSome) tag s
      return (place, s.complete place node)

/-- A node behind its anchor and tag; after one of these the rest may be left out. -/
def takeContent (spot : Spot) : (fuel : Nat) → (marked : Bool) → (tag : Option String) → Stream →
    Result (Node × Stream)
  | 0, _, _, _ => faulty .unexpected
  | fuel + 1, marked, tag, s => do
    let sequence (r : List Nat × Stream) : Node × Stream :=
      (⟨collectionTag Tag.seq tag, .sequence r.1⟩, r.2)
    let mapping (r : List (Nat × Nat) × Stream) : Node × Stream :=
      (⟨collectionTag Tag.map tag, .mapping r.1⟩, r.2)
    let leftOut : Result (Node × Stream) :=
      if marked then .ok (emptyNode s.dialect tag, s) else faulty .unexpected
    match ← s.peek with
    | some .dash => if spot = .blockValue then return sequence (← takeDashes fuel s) else leftOut
    | some (.scalar text plain) => return (scalarNode tag text plain, s.pop)
    | some .flowSequenceStart => return sequence (← takeFlowItems true fuel s.pop)
    | some .flowMappingStart => return mapping (← takeFlowPairs true fuel s.pop)
    | some .sequenceStart =>
      if spot = .flow then leftOut else return sequence (← takeBlockItems fuel s.pop)
    | some .mappingStart =>
      if spot = .flow then leftOut else return mapping (← takeBlockPairs fuel s.pop)
    | _ => leftOut

/-- A node, unless a token of a list shows that it was left out. -/
def takeUnless (spot : Spot) (ends : List Token) : (fuel : Nat) → Stream → Result (Nat × Stream)
  | 0, _ => faulty .unexpected
  | fuel + 1, s => do
    if ← s.isAt ends then return s.add absent else takeNode spot fuel s

/-- The items of a block sequence, each behind a dash. -/
def takeBlockItems : (fuel : Nat) → Stream → Result (List Nat × Stream)
  | 0, _ => faulty .unexpected
  | fuel + 1, s => do
    match ← s.peek with
    | some .dash =>
      let (item, s) ← takeUnless .block [.dash, .blockEnd] fuel s.pop
      let (rest, s) ← takeBlockItems fuel s
      return (item :: rest, s)
    | some .blockEnd => return ([], s.pop)
    | _ => faulty .unexpected

/-- The items of a sequence that is not indented further than the key in front of it. -/
def takeDashes : (fuel : Nat) → Stream → Result (List Nat × Stream)
  | 0, _ => faulty .unexpected
  | fuel + 1, s => do
    match ← s.peek with
    | some .dash =>
      let (item, s) ← takeUnless .block [.dash, .key, .value, .blockEnd] fuel s.pop
      let (rest, s) ← takeDashes fuel s
      return (item :: rest, s)
    | _ => return ([], s)

/-- The value behind a key, if there is one. -/
def takeValue (spot : Spot) (ends : List Token) : (fuel : Nat) → Stream → Result (Nat × Stream)
  | 0, _ => faulty .unexpected
  | fuel + 1, s => do
    if ← s.isAt [.value] then takeUnless spot ends fuel s.pop else return s.add absent

/-- The pairs of a block mapping. -/
def takeBlockPairs : (fuel : Nat) → Stream → Result (List (Nat × Nat) × Stream)
  | 0, _ => faulty .unexpected
  | fuel + 1, s => do
    match ← s.peek with
    | some .key =>
      let (key, s) ← takeUnless .blockValue [.key, .value, .blockEnd] fuel s.pop
      let (value, s) ← takeValue .blockValue [.key, .value, .blockEnd] fuel s
      let (rest, s) ← takeBlockPairs fuel s
      return ((key, value) :: rest, s)
    | some .blockEnd => return ([], s.pop)
    | _ => faulty .unexpected

/-- The key of a pair that is an item of a sequence in brackets. If it was left out in front of a
prompt, the token that shows it is passed over. -/
def takePairKey : (fuel : Nat) → Stream → Result (Nat × Stream)
  | 0, _ => faulty .unexpected
  | fuel + 1, s => do
    if ← s.isAt [.value, .comma, .flowSequenceEnd] then
      return (if s.dialect = .tabbed then s.pop else s).add absent
    else takeNode .flow fuel s

/-- The items of a sequence in brackets. An item may be a single pair. -/
def takeFlowItems : (first : Bool) → (fuel : Nat) → Stream → Result (List Nat × Stream)
  | _, 0, _ => faulty .unexpected
  | first, fuel + 1, s => do
    if ← s.isAt [.flowSequenceEnd] then return ([], s.pop)
    let s ← if first then pure s else takeComma s
    match ← s.peek with
    | some .flowSequenceEnd => return ([], s.pop)
    | some .key =>
      let (key, s) ← takePairKey fuel s.pop
      let (value, s) ← takeValue .flow [.comma, .flowSequenceEnd] fuel s
      let (item, s) := s.add ⟨Tag.map, .mapping [(key, value)]⟩
      let (rest, s) ← takeFlowItems false fuel s
      return (item :: rest, s)
    | _ =>
      let (item, s) ← takeNode .flow fuel s
      let (rest, s) ← takeFlowItems false fuel s
      return (item :: rest, s)

/-- The pairs of a mapping in brackets. A key may stand alone. -/
def takeFlowPairs : (first : Bool) → (fuel : Nat) → Stream → Result (List (Nat × Nat) × Stream)
  | _, 0, _ => faulty .unexpected
  | first, fuel + 1, s => do
    if ← s.isAt [.flowMappingEnd] then return ([], s.pop)
    let s ← if first then pure s else takeComma s
    match ← s.peek with
    | some .flowMappingEnd => return ([], s.pop)
    | some .key =>
      let (key, s) ← takeUnless .flow [.value, .comma, .flowMappingEnd] fuel s.pop
      let (value, s) ← takeValue .flow [.comma, .flowMappingEnd] fuel s
      let (rest, s) ← takeFlowPairs false fuel s
      return ((key, value) :: rest, s)
    | _ =>
      let (key, s) ← takeNode .flow fuel s
      let (value, s) := s.add absent
      let (rest, s) ← takeFlowPairs false fuel s
      return ((key, value) :: rest, s)

end

/-- Directives in front of a document: a version that can be read, and handles, none twice. -/
def takeDirectives : (fuel : Nat) → (versioned : Bool) → (handles : List (String × String)) → Stream →
    Result (List (String × String) × Stream)
  | 0, _, handles, s => .ok (handles, s)
  | fuel + 1, versioned, handles, s => do
    match ← s.peek with
    | some (.directive (.version major minor)) =>
      let isKnown := major = 1 && (s.dialect = .spaced || minor = 1 || minor = 2)
      if versioned || !isKnown then faulty .directive
      else takeDirectives fuel true handles s.pop
    | some (.directive (.handle handle replacement)) =>
      if (handles.lookup handle).isSome then faulty .directive
      else takeDirectives fuel versioned (handles ++ [(handle, replacement)]) s.pop
    | some (.directive .other) => takeDirectives fuel versioned handles s.pop
    | _ => return (handles, s)

/-- The stream behind the marks for the end of a document. -/
def skipDocumentEnds : (fuel : Nat) → Stream → Result Stream
  | 0, s => .ok s
  | fuel + 1, s => do
    if ← s.isAt [.documentEnd] then skipDocumentEnds fuel s.pop else return s

/-- A document that starts with directives and a mark. -/
def takeExplicit (fuel : Nat) (s : Stream) : Result (Nat × Stream) := do
  let (handles, s) ← takeDirectives (s.tokens.length + 1) false [] s
  if !(← s.isAt [.documentStart]) then faulty .unexpected
  let s := { s.pop with handles := handles ++ Tag.handles }
  match ← s.peek with
  | none | some (.directive _) | some .documentStart | some .documentEnd => return s.add absent
  | _ => takeNode .block fuel s

/-- The nodes of the document of a text and the place of the outermost, if there is a document; there
may not be two. -/
def Graph.ofTokens (dialect : Dialect) (tokens : List Token) (stop : Option ReadError) :
    Result (Option (Graph × Nat)) := do
  let fuel := 4 * tokens.length + 8
  let s : Stream := ⟨tokens, stop, dialect, Tag.handles, #[], []⟩
  match ← s.peek with
  | none => return none
  | some first =>
    let isExplicit := match first with
      | .directive _ | .documentStart => true
      | _ => false
    let (root, s) ← if isExplicit then takeExplicit fuel s else takeNode .block fuel s
    let s ← skipDocumentEnds (s.tokens.length + 1) s
    match ← s.peek with
    | none => return some (s.graph, root)
    | some _ => faulty .severalDocuments

end Switchboard.Yaml
