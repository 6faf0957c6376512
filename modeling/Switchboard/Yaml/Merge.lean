import Switchboard.Yaml.Node

/-!
Mappings that take in the pairs of others.

A pair with the key `<<` names a mapping, or a sequence of mappings. `Graph.merge` takes these pairs
out of a mapping and puts those of the mappings that they name in front of its own pairs, which
therefore replace them.
-/
namespace Switchboard.Yaml.Graph

/-- The node in a place. -/
def node (graph : Graph) (place : Nat) : Node := graph[place]?.getD default

/-- Gives a node another tag. -/
def retag (graph : Graph) (place : Nat) (tag : String) : Graph :=
  graph.setIfInBounds place { graph.node place with tag }

/-- Gives a mapping other pairs. -/
def setPairs (graph : Graph) (place : Nat) (pairs : List (Nat × Nat)) : Graph :=
  graph.setIfInBounds place { graph.node place with content := .mapping pairs }

/-- The pairs of a mapping, if a node is one. -/
def pairs? (graph : Graph) (place : Nat) : Option (List (Nat × Nat)) :=
  match (graph.node place).content with
  | .mapping pairs => some pairs
  | _ => none

/-- The number of steps that a merge can take at most: every step into another mapping takes out a
pair, and every mapping is walked once in between. -/
def mergeFuel (graph : Graph) : Nat :=
  let pairs := graph.foldl (fun n node =>
    match node.content with
    | .mapping pairs => n + pairs.length
    | .sequence items => n + items.length
    | .scalar _ => n) 0
  (pairs + 2) * (pairs + 2)

mutual

/-- Walks the pairs of a mapping from `index` on; `merged` are the pairs taken in so far. -/
def mergeFrom (place : Nat) :
    (fuel index : Nat) → (merged : List (Nat × Nat)) → Graph → Result Graph
  | 0, _, _, graph => .ok graph
  | fuel + 1, index, merged, graph => do
    let pairs := (graph.pairs? place).getD []
    match pairs[index]? with
    | none =>
      return if merged.isEmpty then graph else graph.setPairs place (merged ++ pairs)
    | some (key, value) =>
      let tag := (graph.node key).tag
      if tag = Tag.ofForm .merge then
        let (added, graph) ← mergeSource fuel value (graph.setPairs place (pairs.eraseIdx index))
        mergeFrom place fuel index (merged ++ added) graph
      else
        let graph := if tag = Tag.ofForm .equals then graph.retag key Tag.str else graph
        mergeFrom place fuel (index + 1) merged graph

/-- The pairs that a mapping, or a sequence of mappings, gives to the one that merges it. Of several
mappings the first comes last, so that it replaces the others. -/
def mergeSource : (fuel place : Nat) → Graph → Result (List (Nat × Nat) × Graph)
  | 0, _, graph => .ok ([], graph)
  | fuel + 1, place, graph => do
    match (graph.node place).content with
    | .scalar _ => faulty .merge
    | .mapping _ =>
      let graph ← mergeFrom place fuel 0 [] graph
      return ((graph.pairs? place).getD [], graph)
    | .sequence items => mergeSources fuel items graph

/-- The pairs of several mappings, those of the last one first. -/
def mergeSources : (fuel : Nat) → (items : List Nat) → Graph → Result (List (Nat × Nat) × Graph)
  | 0, _, graph => .ok ([], graph)
  | _, [], graph => .ok ([], graph)
  | fuel + 1, place :: rest, graph => do
    if (graph.pairs? place).isNone then faulty .merge
    let graph ← mergeFrom place fuel 0 [] graph
    let own := (graph.pairs? place).getD []
    let (later, graph) ← mergeSources fuel rest graph
    return (later ++ own, graph)

end

/-- Takes the pairs of the mappings that a mapping names into it. -/
def merge (place : Nat) (graph : Graph) : Result Graph :=
  mergeFrom place graph.mergeFuel 0 [] graph

end Switchboard.Yaml.Graph
