import Switchboard.Schema.Interruption
import Switchboard.Schema.Metaschema.Parts
import Switchboard.Text.Uri

/-!
The drafts of the schema language, and where each of them keeps identifiers and further schemas.
-/
namespace Switchboard.Schema

/-- A draft of the schema language. -/
inductive Dialect where
  | draft3
  | draft4
  | draft6
  | draft7
  | draft2019
  | draft2020
  deriving DecidableEq

/-- A step of a pointer: the key of a mapping or the position in a list. -/
inductive Step where
  | key (name : String)
  | position (index : Int)
  deriving DecidableEq

/-- Where the schemas inside of a schema are: keywords whose values are schemas, lists of schemas, and
mappings to schemas. `items` says that the keyword of this name may hold a schema or a list of them,
`dependencies` that the keyword of this name may hold a mapping to schemas, and `extras` names keywords
that hold a schema if they hold a mapping. -/
structure Holders where
  inValue : List String
  inList : List String
  inMembers : List String
  items : Bool
  dependencies : Bool
  extras : List String

namespace Dialect

/-- All drafts. -/
def all : List Dialect := [.draft3, .draft4, .draft6, .draft7, .draft2019, .draft2020]

/-- The identifier of the schema of schemas of a draft. -/
def identifier : Dialect → String
  | .draft3 => Metaschema.numbered 3
  | .draft4 => Metaschema.numbered 4
  | .draft6 => Metaschema.numbered 6
  | .draft7 => Metaschema.numbered 7
  | .draft2019 => Metaschema.yearly "2019-09" "schema"
  | .draft2020 => Metaschema.yearly "2020-12" "schema"

/-- Whether identifiers stand under a short name, without a dollar sign. -/
def isPlain (d : Dialect) : Bool := d = .draft3 || d = .draft4

/-- Whether a reference takes the place of all other keywords beside it. -/
def refersAlone (d : Dialect) : Bool := d.isPlain || d = .draft6 || d = .draft7

/-- Where the schemas inside of a schema are. -/
def holders : Dialect → Holders
  | .draft3 =>
    ⟨[], ["extends"], ["definitions", "patternProperties", "properties"], true, true,
      ["additionalItems", "additionalProperties"]⟩
  | .draft4 =>
    ⟨["not"], ["allOf", "anyOf", "oneOf"], ["definitions", "patternProperties", "properties"],
      true, true, ["additionalItems", "additionalProperties"]⟩
  | .draft6 =>
    ⟨["additionalItems", "additionalProperties", "contains", "not", "propertyNames"],
      ["allOf", "anyOf", "oneOf"], ["definitions", "patternProperties", "properties"],
      true, true, []⟩
  | .draft7 =>
    ⟨["additionalItems", "additionalProperties", "contains", "else", "if", "not", "propertyNames",
        "then"],
      ["allOf", "anyOf", "oneOf"], ["definitions", "patternProperties", "properties"],
      true, true, []⟩
  | .draft2019 =>
    ⟨["additionalItems", "additionalProperties", "contains", "contentSchema", "else", "if", "not",
        "propertyNames", "then", "unevaluatedItems", "unevaluatedProperties"],
      ["allOf", "anyOf", "oneOf"],
      ["$defs", "definitions", "dependentSchemas", "patternProperties", "properties"],
      true, false, []⟩
  | .draft2020 =>
    ⟨["additionalProperties", "contains", "contentSchema", "else", "if", "items", "not",
        "propertyNames", "then", "unevaluatedItems", "unevaluatedProperties"],
      ["allOf", "anyOf", "oneOf", "prefixItems"],
      ["$defs", "definitions", "dependentSchemas", "patternProperties", "properties"],
      false, false, []⟩

/-- Whether steps from a schema lead to a schema inside of it, which is a mapping or not. -/
def leadsToSchema (d : Dialect) (isMapping : Bool) : List Step → Bool
  | [] => true
  | step :: rest =>
    let h := d.holders
    let isLoose := match step with
      | .key name => (h.items && name = "items") || (h.dependencies && name = "dependencies")
      | .position _ => false
    let isOneOf (names : List String) : Bool := match step with
      | .key name => names.contains name
      | .position _ => false
    if isLoose && isMapping then true
    else if isOneOf h.inValue || isOneOf h.extras then leadsToSchema d isMapping rest
    else if isOneOf h.inList || isOneOf h.inMembers then
      match rest with
      | [] => false
      | _ :: rest => leadsToSchema d isMapping rest
    else false

/-- An identifier without the number signs at its end. -/
def withoutMarks (identifier : String) : String :=
  String.ofList (identifier.toList.reverse.dropWhile (· = '#')).reverse

/-- The draft with an identifier, which may end in a number sign. -/
def named? (identifier : String) : Option Dialect :=
  all.find? fun d => withoutMarks d.identifier = withoutMarks identifier

/-- The draft that the checking goes on with at a schema: the one that the schema names, however its
identifier is written, or the one so far. -/
def at? (d : Dialect) : Value → Except Interruption Dialect
  | .object members =>
    match Members.get? (.text "$schema") members with
    | some (.str s) =>
      .ok ((all.find? fun d => Text.Uri.normal d.identifier = Text.Uri.normal s).getD d)
    | _ => .ok d
  | .bytes _ => .error .holdsBytes
  | .bool _ | .str _ | .list _ | .tuple _ | .set _ | .shared _ _ | .enclosing _ => .ok d
  | v => .error (.holdsNothing v.typeName)

/-- The identifier of a schema, if it has one that is more than an anchor. -/
def identifierOf (d : Dialect) (schema : Value) : Except Interruption (Option String) :=
  match schema with
  | .object members =>
    let written := match Members.get? (.text (if d.isPlain then "id" else "$id")) members with
      | some (.str s) => some s
      | _ => none
    if d.refersAlone then
      if Members.contains (.text "$ref") members then .ok none
      else .ok ((written.filter fun s => !s.startsWith "#").map withoutMarks)
    else .ok (written.map withoutMarks)
  | .bool _ => if d.isPlain then .error (.holdsNothing "bool") else .ok none
  | .null | .int _ | .float _ | .moment _ | .foreign _ =>
    .error (if d.refersAlone then .holdsNothing schema.typeName else .noMembers schema.typeName "get")
  | .bytes _ => .error (if d.refersAlone then .holdsBytes else .noMembers schema.typeName "get")
  | v => .error (.noMembers v.typeName "get")

/-- The anchors of a schema, and for each whether it is a dynamic one. -/
def anchorsOf (d : Dialect) (schema : Value) : List (String × Bool) :=
  let at? (key : String) : Option String := match schema.get? key with
    | some (.str s) => some s
    | _ => none
  if d.refersAlone then
    match at? (if d.isPlain then "id" else "$id") with
    | some s => if s.startsWith "#" then [((s.drop 1).toString, false)] else []
    | none => []
  else
    let fixed := (at? "$anchor").toList.map fun name => (name, false)
    let dynamic := (at? "$dynamicAnchor").toList.map fun name => (name, true)
    fixed ++ (if d = .draft2020 then dynamic else [])

/-- The schemas right inside of a schema. -/
def partsOf (d : Dialect) (schema : Value) : List Value :=
  let at? (key : String) : List Value := (schema.get? key).toList
  let items : Value → List Value
    | .list vs | .tuple vs => vs
    | _ => []
  let values : Value → List Value
    | .object members => members.map (·.2)
    | _ => []
  let mappings (vs : List Value) : List Value := vs.filter fun
    | .object _ => true
    | _ => false
  let h := d.holders
  let loose := if h.items then
      (at? "items").flatMap fun
        | .list vs | .tuple vs => vs
        | .null => []
        | v => [v]
    else []
  let depending := if h.dependencies then
      (at? "dependencies").flatMap fun v =>
        match values v with
        | .object first :: rest => .object first :: rest
        | _ => []
    else []
  h.inValue.flatMap at? ++ (h.inList.flatMap at?).flatMap items
    ++ (h.inMembers.flatMap at?).flatMap values ++ loose ++ depending
    ++ mappings (h.extras.flatMap at?)

end Dialect

end Switchboard.Schema
