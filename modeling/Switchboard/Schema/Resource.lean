import Switchboard.Schema.Dialect

/-!
Schemas that references can lead to, by their identifiers and anchors.

An `Index` is made by walking through a document: every schema that has an identifier is entered under
it, and every anchor under the identifier of the schema around it.
-/
namespace Switchboard.Schema

/-- A schema that a reference can lead to, in the draft that it is written in. -/
structure Resource where
  dialect : Dialect
  contents : Value

namespace Resource

/-- A document inside of one written in a draft; it may name a draft of its own. -/
def within (dialect : Dialect) (contents : Value) : Resource :=
  match contents.get? "$schema" with
  | some (.str s) => ⟨(Dialect.named? s).getD dialect, contents⟩
  | _ => ⟨dialect, contents⟩

/-- Its identifier. -/
def identifier (r : Resource) : Except Interruption (Option String) :=
  r.dialect.identifierOf r.contents

/-- The schemas right inside of it. -/
def parts (r : Resource) : List Resource := (r.dialect.partsOf r.contents).map (within r.dialect)

end Resource

/-- A schema with a name, which is the same wherever it is referred to from, or dynamic. -/
structure Anchor where
  resource : Resource
  isDynamic : Bool

/-- Where identifiers and anchors lead; of two entries the first one counts. -/
structure Index where
  resources : List (String × Resource)
  anchors : List ((String × String) × Anchor)

namespace Index

/-- Nothing is entered. -/
def empty : Index := ⟨[], []⟩

/-- Enters a schema under an identifier. -/
def withResource (index : Index) (address : String) (r : Resource) : Index :=
  { index with resources := (address, r) :: index.resources }

/-- Enters the anchors of a schema. -/
def withAnchors (index : Index) (address : String) (r : Resource) : Index :=
  (r.dialect.anchorsOf r.contents).foldl
    (fun index (name, isDynamic) =>
      { index with anchors := ((address, name), ⟨r, isDynamic⟩) :: index.anchors })
    index

/-- The identifier that a reference means from a base. -/
def joined (base reference : String) : String :=
  String.ofList (Text.Uri.join base.toList reference.toList)

/-- Enters what is inside of documents, each of which stands with the identifier of the schema around
it. The schemas inside of a document come before the next document, the last one first. -/
def crawl : (fuel : Nat) → List (String × Resource) → Index → Except Interruption Index
  | 0, _, index => .ok index
  | _, [], index => .ok index
  | fuel + 1, (around, r) :: rest, index => do
    let address := match ← r.identifier with
      | some identifier => joined around identifier
      | none => around
    let entered := if (← r.identifier).isSome then index.withResource address r else index
    crawl fuel ((r.parts.map fun part => (address, part)).reverse ++ rest)
      (entered.withAnchors address r)

end Index

mutual

/-- The number of values in a value, itself included. -/
def size : Value → Nat
  | .list items | .tuple items => 1 + sizeItems items
  | .object members => 1 + sizeMembers members
  | _ => 1

/-- The number of values in the items of a list. -/
def sizeItems : List Value → Nat
  | [] => 0
  | v :: rest => size v + sizeItems rest

/-- The number of values in the values of members. -/
def sizeMembers : List (Key × Value) → Nat
  | [] => 0
  | (_, v) :: rest => size v + sizeMembers rest

end

/-- The index of some documents. -/
def Index.ofDocuments (documents : List (String × Resource)) (index : Index) :
    Except Interruption Index :=
  let fuel := documents.foldl (fun n (_, r) => n + size r.contents) documents.length
  Index.crawl (fuel + 1) documents index

end Switchboard.Schema
