import Switchboard.Schema.Metaschema
import Switchboard.Text.Numeral
import Switchboard.Text.Percent

/-!
References: from a place in a schema to another schema.

A `Library` holds the document that is worked with, a `Scope` tells where in it a reference stands.
`Library.lookup` follows a reference: its address leads to a resource, and its fragment, be it a
pointer or an anchor, to a schema inside of that. The identifiers inside of a document are known only
after it was walked through, which happens with the first reference that asks for them.
-/
namespace Switchboard.Schema

/-- A document, and where the identifiers and anchors inside of it and of the schemas of schemas
lead. -/
structure Library where
  address : String
  root : Resource
  index : Except Interruption Index

/-- Where a reference stands: the identifier of the schema around it, those of the schemas that led
there, the latest first, and whether the document was walked through. -/
structure Scope where
  base : String
  outer : List String
  isCrawled : Bool

namespace Library

/-- A document with what is inside of it. -/
def ofDocument (contents : Value) : Library :=
  let root : Resource := ⟨.draft2020, contents⟩
  let address := match root.identifier with
    | .ok (some identifier) => identifier
    | _ => ""
  ⟨address, root, Index.ofDocuments [(address, root)] (Metaschema.index.withResource address root)⟩

/-- The scope of the document as a whole. -/
def scope (l : Library) : Scope := ⟨l.address, [], false⟩

/-- The resource under an address, and whether the document had to be walked through for it. -/
def resource? (l : Library) (isCrawled : Bool) (address : String) :
    Except Interruption (Option (Resource × Bool)) := do
  let plain :=
    if isCrawled then none
    else if l.address = address then some l.root
    else Metaschema.index.resources.lookup address
  match plain with
  | some r => return some (r, false)
  | none => return ((← l.index).resources.lookup address).map (·, true)

/-- The anchor with a name in the resource under an address. -/
def anchor (l : Library) (isCrawled : Bool) (address name : String) :
    Except Interruption (Anchor × Bool) := do
  let plain := if isCrawled then none else Metaschema.index.anchors.lookup (address, name)
  match plain with
  | some a => return (a, false)
  | none =>
    let index ← l.index
    match index.anchors.lookup (address, name) with
    | some a => return (a, true)
    | none =>
      match ← l.resource? isCrawled address with
      | none => throw (.astray (.unresolvable address))
      | some (r, _) =>
        match (← r.identifier).bind fun identifier => index.anchors.lookup (identifier, name) with
        | some a => return (a, true)
        | none =>
          if name.contains '/' then throw (.astray (.badAnchor name))
          else throw (.astray (.noAnchor name r.contents.literal))

end Library

namespace Scope

/-- The scope of another resource, which is now led to from here. -/
def enter (s : Scope) (isCrawled : Bool) (address : String) : Scope :=
  let isNew := s.base != "" && (s.outer.isEmpty || address != s.base)
  ⟨address, if isNew then s.base :: s.outer else s.outer, s.isCrawled || isCrawled⟩

/-- The scope inside of a schema, which may have an identifier. -/
def inside (s : Scope) (r : Resource) : Except Interruption Scope := do
  match ← r.identifier with
  | some identifier => return { s with base := Index.joined s.base identifier }
  | none => return s

end Scope

/-- A step of a pointer with its two escapes replaced, that of the slash first. -/
def unescapeStep (cs : List Char) : String :=
  let rec slashes : List Char → List Char
    | '~' :: '1' :: rest => '/' :: slashes rest
    | c :: rest => c :: slashes rest
    | [] => []
  let rec tildes : List Char → List Char
    | '~' :: '0' :: rest => '~' :: tildes rest
    | c :: rest => c :: tildes rest
    | [] => []
  String.ofList (tildes (slashes cs))

/-- The item at a position of a list; negative positions count from the end. -/
def itemAt? {α : Type} (items : List α) (index : Int) : Option α :=
  let index := if index < 0 then index + items.length else index
  if index < 0 then none else items[index.toNat]?

/-- One step of a pointer: the step as it is understood, and what it leads to, if that is there. -/
def stepInto (v : Value) (written : List Char) : Except Interruption (Step × Option Value) :=
  let position (item? : Int → Option Value) : Except Interruption (Step × Option Value) :=
    match Text.Numeral.readInt 10 written with
    | .ok index => .ok (.position index, item? index)
    | .error .malformed => .error (.badPosition (String.ofList written))
    | .error (.tooLong digits) => .error (.longPosition digits)
  match v with
  | .list items | .tuple items => position (itemAt? items)
  | .str s => position fun i => (itemAt? s.toList i).map fun c => .str (String.singleton c)
  | .bytes data => position fun i => (itemAt? data i).map fun b => .int b.toNat
  | .object members =>
    let name := unescapeStep written
    .ok (.key name, Members.get? (.text name) members)
  | v => .error (.noParts v.typeName)

/-- Follows the steps of a pointer through a resource. Schemas on the way may have identifiers; `passed`
holds the steps behind the last of them. -/
def follow (r : Resource) (pointer : String) (scope : Scope) (passed : List Step) (v : Value) :
    List (List Char) → Except Interruption (Value × Scope)
  | [] => .ok (v, scope)
  | written :: rest => do
    match ← stepInto v written with
    | (_, none) => throw (.astray (.nowhere pointer r.contents.literal))
    | (step, some next) =>
      let passed := passed ++ [step]
      let isMapping := match next with
        | .object _ => true
        | _ => false
      if r.dialect.leadsToSchema isMapping passed then
        let identifier ← r.dialect.identifierOf next
        let inside ← scope.inside ⟨r.dialect, next⟩
        follow r pointer inside (if identifier.isSome then [] else passed) next rest
      else follow r pointer scope passed next rest

namespace Library

/-- The schema that the outermost of the resources on the way knows under a dynamic name. -/
def dynamic (l : Library) (s : Scope) (name : String) (last : Resource) :
    List String → Except Interruption Resource
  | [] => .ok last
  | address :: rest =>
    match l.anchor s.isCrawled address name with
    | .ok (a, _) => l.dynamic s name (if a.isDynamic then a.resource else last) rest
    | .error (.astray (.noAnchor _ _)) => l.dynamic s name last rest
    | .error why => .error why

/-- Follows a reference: the schema that it leads to, and the scope there. -/
def lookup (l : Library) (s : Scope) (reference : String) : Except Interruption (Value × Scope) := do
  let (address, fragment) :=
    match reference.toList with
    | '#' :: fragment => (s.base, fragment)
    | cs =>
      let (address, fragment) := Text.Uri.splitFragment (Text.Uri.join s.base.toList cs)
      (String.ofList address, fragment)
  match ← l.resource? s.isCrawled address with
  | none => throw (.astray (.unresolvable reference))
  | some (r, isCrawled) =>
    match fragment with
    | [] => return (r.contents, s.enter isCrawled address)
    | '/' :: pointer =>
      follow r (String.ofList fragment) (s.enter isCrawled address) [] r.contents
        (Text.splitOn (· = '/') (Text.percentDecoded pointer))
    | name =>
      let (a, isCrawled) ← l.anchor (s.isCrawled || isCrawled) address (String.ofList name)
      let there := s.enter isCrawled address
      if a.isDynamic then
        let last ← l.dynamic there (String.ofList name) a.resource there.outer
        return (last.contents, ← there.inside last)
      else return (a.resource.contents, there)

/-- Whether a schema passes on recursive references to the schemas that led to it. -/
def isRecursive (v : Value) : Bool :=
  match v with
  | .object members => ((Members.get? (.text "$recursiveAnchor") members).map Value.isSet).getD false
  | _ => false

/-- The outermost of the resources on the way that pass on recursive references, up to the first that
does not. -/
def outermost (l : Library) (s : Scope) (found : Value × Scope) :
    List String → Except Interruption (Value × Scope)
  | [] => .ok found
  | address :: rest => do
    let next ← l.lookup s address
    if isRecursive next.1 then l.outermost s next rest else return found

/-- Follows a recursive reference. -/
def lookupRecursive (l : Library) (s : Scope) : Except Interruption (Value × Scope) := do
  let found ← l.lookup s "#"
  if isRecursive found.1 then l.outermost s found s.outer else return found

end Library

/-- A reference that leads astray where it stands as a keyword. -/
def asKeyword {α : Type} : Except Interruption α → Except Interruption α
  | .error (.astray fault) => .error (.unresolved fault)
  | r => r

end Switchboard.Schema
