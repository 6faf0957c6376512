import Switchboard.Schema.Assertion
import Switchboard.Schema.Reference

/-!
Checking values against schemas.

`search` goes through the keywords of a schema in the order in which they stand and looks for what each
of them does not allow. Some keywords depend on which parts of a value other keywords have looked at:
`seenKeys` and `seenItems` tell. References may lead in a circle, so all of these take fuel.
-/
namespace Switchboard.Schema

/-- What a schema is met with: the document around it, the draft and the scope inside of it, and
whether formats are checked. -/
structure Context where
  library : Library
  dialect : Dialect
  scope : Scope
  checksFormats : Bool

/-- A way to look for what the keywords of a schema do not allow in a value. The context is that
inside of the schema; the draft is that of the schema around it, which tells the keywords to look at. -/
abbrev Search := Context → Dialect → (schema v : Value) → Findings

/-- The keywords of a schema that count in a draft. -/
def keywordsIn (d : Dialect) : (schema : Value) → Except Interruption (List (Key × Value))
  | .object members =>
    if d.refersAlone then
      match Members.get? (.text "$ref") members with
      | none | some .null => .ok members
      | some reference => .ok [(.text "$ref", reference)]
    else .ok members
  | v => .error (.noMembers v.typeName (if d.refersAlone then "get" else "items"))

namespace Context

/-- The context inside of a schema that is met here. -/
def inside (c : Context) (schema : Value) : Except Interruption Context := do
  let scope ← c.scope.inside ⟨c.dialect, schema⟩
  let dialect ← c.dialect.at? schema
  return { c with scope := scope, dialect := dialect }

/-- What a schema does not allow, where the context inside of it is made by `inner`. -/
def checkIn (look : Search) (c : Context) (inner : Value → Except Interruption Context)
    (schema v : Value) : Findings :=
  match schema with
  | .bool true => .none
  | .bool false => .one ("False schema does not allow " ++ v.literal)
  | schema => .ofResult (inner schema) fun inner => look inner c.dialect schema v

/-- What a schema does not allow in a value. -/
def check (look : Search) (c : Context) (schema v : Value) : Findings :=
  c.checkIn look c.inside schema v

/-- `check` of a part of a value. A schema that allows nothing reports its finding at the whole. -/
def checkPart (look : Search) (c : Context) (part : String) (schema v : Value) : Findings :=
  match schema with
  | .bool false => c.check look schema v
  | schema => (c.check look schema v).under part

/-- What the schema that a reference led to does not allow. -/
def checkFound (look : Search) (c : Context) (found : Except Interruption (Value × Scope))
    (v : Value) : Findings :=
  .ofResult found fun (schema, scope) =>
    c.checkIn look
      (fun schema => do return { c with scope := scope, dialect := ← c.dialect.at? schema }) schema v

/-- Whether a schema, which stays in the scope of the schema around it, allows a value. -/
def allows (look : Search) (c : Context) (schema v : Value) : Except Interruption Bool := do
  let dialect ← c.dialect.at? schema
  match schema with
  | .bool b => return b
  | schema => (look { c with dialect := dialect } dialect schema v).areEmpty

/-- Whether a schema that is met here allows a value. -/
def admits (look : Search) (c : Context) (schema v : Value) : Except Interruption Bool :=
  (c.check look schema v).areEmpty

/-- The schema that a reference of a keyword leads to. -/
def target (c : Context) : (reference : Value) → Except Interruption (Value × Scope)
  | .str reference => c.library.lookup c.scope reference
  | v => .error (.noMembers v.typeName "startswith")

/-- How many items a schema allows, counted on from `count` until there are too many. -/
def countAllowed (look : Search) (c : Context) (schema most : Value) (count : Nat) :
    List Value → Except Interruption Nat
  | [] => .ok count
  | x :: rest => do
    if ← c.allows look schema x then
      if isMore (count + 1) most then return count + 1
      else c.countAllowed look schema most (count + 1) rest
    else c.countAllowed look schema most count rest

/-- The first schema that allows a value, and those behind it. Each schema is checked to its end. -/
def firstAllowing (look : Search) (c : Context) (v : Value) :
    List Value → Except Interruption (Option (Value × List Value))
  | [] => .ok none
  | schema :: rest => do
    if (← (c.check look schema v).toList).isEmpty then return some (schema, rest)
    else c.firstAllowing look v rest

/-- Whether a value is of one of the types of a draft in which a type may be a schema. -/
def isOfType (look : Search) (c : Context) (siblings : List (Key × Value)) (v type : Value) :
    Except Interruption Bool :=
  match type with
  | .object _ => do return (← (c.check look type v).toList).isEmpty
  | type => isTypeIn c.dialect siblings v type

end Context

/-! ### Which parts of a value a schema looks at -/

/-- The keys of the members that pass a test. -/
def keysWhere (test : Key → Value → Except Interruption Bool) :
    List (Key × Value) → Except Interruption (List Key)
  | [] => .ok []
  | (k, x) :: rest => do
    let keep ← test k x
    let others ← keysWhere test rest
    return if keep then k :: others else others

/-- The positions, counted from `start`, of the items that pass a test. -/
def positionsWhere (test : Value → Except Interruption Bool) (start : Nat) :
    List Value → Except Interruption (List Nat)
  | [] => .ok []
  | x :: rest => do
    let keep ← test x
    let others ← positionsWhere test (start + 1) rest
    return if keep then start :: others else others

/-- The schemas that the references of a schema lead to, with the contexts there. -/
def referred (c : Context) (schema : Value) : Except Interruption (List (Context × Value)) := do
  let enter (found : Value × Scope) : Except Interruption (Context × Value) := do
    return ({ c with scope := found.2, dialect := ← c.dialect.at? found.1 }, found.1)
  let follow (name : String) : Except Interruption (List (Context × Value)) :=
    match schema.get? name with
    | none | some .null => .ok []
    | some reference => do return [← enter (← c.target reference)]
  let fixed ← follow "$ref"
  let moving ←
    if c.dialect = .draft2019 then
      match schema.get? "$recursiveRef" with
      | none => pure []
      | some _ => do pure [← enter (← c.library.lookupRecursive c.scope)]
    else follow "$dynamicRef"
  return fixed ++ moving

/-- The schemas of those that `allOf`, `oneOf` and `anyOf` list which allow a value. -/
def allowing (look : Search) (c : Context) (schema v : Value) : Except Interruption (List Value) :=
  (["allOf", "oneOf", "anyOf"].flatMap fun name => itemsOf ((schema.get? name).getD .null)).filterM
    fun schema => c.admits look schema v

/-- The condition of a schema, if it holds, with the branch that it leads to. -/
def branches (look : Search) (c : Context) (schema v : Value) : Except Interruption (List Value) := do
  match schema.get? "if" with
  | some condition =>
    if ← c.allows look condition v then return condition :: (schema.get? "then").toList
    else return (schema.get? "else").toList
  | none => return []

/-- The keys of a mapping that a schema looks at. -/
def seenKeys (look : Search) : (fuel : Nat) → Context → (schema v : Value) →
    Except Interruption (List Key)
  | 0, _, _, _ => .error .tooDeep
  | _ + 1, _, .bool _, _ => .ok []
  | fuel + 1, c, .object keywords, v => do
    let schema := Value.object keywords
    let members := membersOf v
    let through ← (← referred c schema).mapM fun (c, schema) => seenKeys look fuel c schema v
    let named := (membersOf ((schema.get? "properties").getD .null)).filterMap fun (k, _) =>
      if Members.contains k members then some k else none
    let rest ← ["additionalProperties", "unevaluatedProperties"].mapM fun name =>
      match schema.get? name with
      | none | some .null => .ok []
      | some schema => keysWhere (fun _ x => c.admits look schema x) members
    let patterns := (membersOf ((schema.get? "patternProperties").getD .null)).map (·.1)
    let matching ← keysWhere (fun k _ => anyOf (fun p => occurs p k) patterns) members
    let dependent ← (membersOf ((schema.get? "dependentSchemas").getD .null)).mapM
      fun (k, schema) =>
        if Members.contains k members then seenKeys look fuel c schema v else .ok []
    let combined ← (← allowing look c schema v).mapM fun schema => seenKeys look fuel c schema v
    let chosen ← (← branches look c schema v).mapM fun schema => seenKeys look fuel c schema v
    return named ++ matching ++ (through ++ rest ++ dependent ++ combined ++ chosen).flatten
  | _ + 1, _, schema, _ => .error (.noMembers schema.typeName "get")

/-- The positions of a list that a schema looks at. -/
def seenItems (look : Search) : (fuel : Nat) → Context → (schema v : Value) →
    Except Interruption (List Nat)
  | 0, _, _, _ => .error .tooDeep
  | _ + 1, _, .bool _, _ => .ok []
  | fuel + 1, c, .object keywords, v => do
    let schema := Value.object keywords
    let all := List.range (itemsOf v).length
    let isOld := c.dialect = .draft2019
    let listed := match schema.get? (if isOld then "items" else "prefixItems") with
      | some (.list vs) => some (List.range vs.length)
      | _ => none
    if (schema.get? "items").isSome
        && (!isOld || listed.isNone || (schema.get? "additionalItems").isSome) then
      return all
    let through ← (← referred c schema).mapM fun (c, schema) => seenItems look fuel c schema v
    let chosen ← (← branches look c schema v).mapM fun schema => seenItems look fuel c schema v
    let matching ← ["contains", "unevaluatedItems"].mapM fun name =>
      match schema.get? name with
      | some schema => positionsWhere (c.allows look schema) 0 (itemsOf v)
      | none => .ok []
    let combined ← (← allowing look c schema v).mapM fun schema => seenItems look fuel c schema v
    return listed.getD [] ++ (through ++ chosen ++ matching ++ combined).flatten
  | _ + 1, _, schema, _ => .error (.noMembers schema.typeName "get")

/-! ### Keywords with further schemas -/

/-- The items of a list with their positions, from a position on. -/
def itemsFrom (start : Nat) (items : List Value) : List (Nat × Value) :=
  ((List.range items.length).zip items).drop start

/-- Each item has its own schema, as far as there are schemas. -/
def checkEach (look : Search) (c : Context) (schemas items : List Value) : Findings :=
  Findings.collect (fun ((i, x), schema) => c.checkPart look (toString i) schema x)
    ((itemsFrom 0 items).zip schemas)

/-- All items from a position on have one schema. -/
def checkAll (look : Search) (c : Context) (start : Nat) (schema : Value) (items : List Value) :
    Findings :=
  Findings.collect (fun (i, x) => c.checkPart look (toString i) schema x) (itemsFrom start items)

/-- What the schemas of properties do not allow. Draft 3 says in the schema of a property whether it
has to be there. -/
def checkProperties (look : Search) (c : Context) (operand : Value) (members : List (Key × Value)) :
    Findings :=
  Findings.collect
    (fun (k, schema) =>
      match Members.get? k members with
      | some x => c.checkPart look k.plain schema x
      | none =>
        if c.dialect = .draft3 && ((schema.get? "required").map Value.isSet).getD false then
          (Findings.one (k.literal ++ " is a required property")).under "required"
        else .none)
    (membersOf operand)

/-- What `items` does not allow: in the newest draft it speaks of the items behind those that have
schemas of their own, before that of all items or of each. -/
def checkItems (look : Search) (c : Context) (siblings : List (Key × Value)) (operand : Value)
    (items : List Value) : Findings :=
  if c.dialect = .draft2020 then
    let count := (itemsOf ((Members.get? (.text "prefixItems") siblings).getD .null)).length
    let rest := items.drop count
    match operand, rest with
    | _, [] => .none
    | .bool false, rest =>
      .one ("Expected at most " ++ toString count ++ (if count = 1 then " item" else " items")
        ++ " but found " ++ toString rest.length ++ " extra: "
        ++ (match rest with | [x] => x.literal | rest => (Value.list rest).literal))
    | _, _ => checkAll look c count operand items
  else
    match operand with
    | .list schemas => checkEach look c schemas items
    | _ => checkAll look c 0 operand items

/-- What the keyword for items behind those with schemas of their own does not allow. -/
def checkAdditionalItems (look : Search) (c : Context) (siblings : List (Key × Value))
    (operand : Value) (items : List Value) : Findings :=
  match Members.get? (.text "items") siblings with
  | none | some (.object _) => .none
  | some known =>
    let count := (itemsOf known).length
    match operand with
    | .object _ => checkAll look c count operand items
    | operand =>
      let rest := items.drop count
      .demand (operand.isSet || rest.isEmpty)
        ("Additional items are not allowed (" ++ listing (rest.map Value.literal) ++ " unexpected)")

/-- What `contains` does not allow: too few items of a kind, or too many. -/
def checkContains (look : Search) (c : Context) (siblings : List (Key × Value)) (operand v : Value)
    (items : List Value) : Findings :=
  if c.dialect.refersAlone then
    .ofResult (anyOf (c.allows look operand) items) fun found =>
      .demand found ("None of " ++ v.literal ++ " are valid under the given schema")
  else
    let least := (Members.get? (.text "minContains") siblings).getD (.int 1)
    let most := (Members.get? (.text "maxContains") siblings).getD (.int items.length)
    .ofResult (c.countAllowed look operand most 0 items) fun count =>
      if isMore count most then
        .one ("Too many items match the given schema (expected at most " ++ most.literal ++ ")")
      else if isFewer count least then
        .one (if count = 0 then
            v.literal ++ " does not contain items matching the given schema"
          else
            "Too few items match the given schema (expected at least " ++ least.literal
              ++ " but only " ++ toString count ++ " matched)")
      else .none

/-- What the keyword for the dependencies of keys does not allow: names of keys, or a schema. -/
def checkDependencies (look : Search) (c : Context) (operand v : Value)
    (members : List (Key × Value)) : Findings :=
  Findings.collect
    (fun (k, dependency) =>
      if Members.contains k members then
        match dependency with
        | .list names => requireAll (dependencyText k) members names
        | .str name =>
          if c.dialect = .draft3 then requireAll (dependencyText k) members [.str name]
          else c.check look dependency v
        | dependency => c.check look dependency v
      else .none)
    (membersOf operand)

/-- What a choice among schemas does not allow: none of them, or, if there may be but one, several. -/
def checkChoice (look : Search) (c : Context) (single : Bool) (operand v : Value) : Findings :=
  .ofResult (c.firstAllowing look v (itemsOf operand)) fun found =>
    match found with
    | none => .one (v.literal ++ " is not valid under any of the given schemas")
    | some (schema, others) =>
      if !single then .none
      else
        .ofResult (others.filterM fun other => c.allows look other v) fun more =>
          .demand more.isEmpty
            (v.literal ++ " is valid under each of "
              ++ Text.join ", " ((more ++ [schema]).map Value.literal))

/-- What the keyword for the members that no other keyword looks at does not allow. A member is named
once for each of its faults. -/
def checkUnseenMembers (look : Search) (fuel : Nat) (c : Context) (schema operand v : Value)
    (members : List (Key × Value)) : Findings :=
  .ofResult (seenKeys look fuel c schema v) fun seen =>
    let rest := members.filter fun (k, _) => !seen.any (·.canonical = k.canonical)
    let faults (member : Key × Value) : Except Interruption (List Key) := do
      return (← (c.check look operand member.2).toList).map fun _ => member.1
    .ofResult (rest.mapM faults) fun found =>
      let keys := found.flatten
      match operand with
      | .bool false =>
        .demand keys.isEmpty
          ("Unevaluated properties are not allowed ("
            ++ listing ((sortKeys keys).map Key.literal) ++ " unexpected)")
      | _ =>
        .demand keys.isEmpty
          ("Unevaluated properties are not valid under the given schema ("
            ++ listing (keys.map Key.literal) ++ " unevaluated and invalid)")

/-- No items may be left that no other keyword looks at. -/
def checkUnseenItems (look : Search) (fuel : Nat) (c : Context) (schema v : Value)
    (items : List Value) : Findings :=
  .ofResult (seenItems look fuel c schema v) fun seen =>
    let rest := (itemsFrom 0 items).filter fun (i, _) => !seen.contains i
    .demand rest.isEmpty
      ("Unevaluated items are not allowed (" ++ listing (rest.map fun (_, x) => x.literal)
        ++ " unexpected)")

/-- What a format does not allow; expressions are the only format that is known. -/
def checkFormat (c : Context) (operand v : Value) : Findings :=
  match c.checksFormats, operand, v with
  | true, .str "regex", .str s =>
    match Regex.isExpression s with
    | .ok ok => .demand ok (v.literal ++ " is not a 'regex'")
    | .error fault => .stopped (.pattern fault)
  | _, _, _ => .none

/-- What a keyword that speaks of mappings does not allow. -/
def memberKeyword (look : Search) (fuel : Nat) (c : Context) (siblings : List (Key × Value))
    (name : String) (operand v : Value) (members : List (Key × Value)) : Findings :=
  match name with
  | "properties" => checkProperties look c operand members
  | "patternProperties" =>
    Findings.collect
      (fun (p, schema) =>
        Findings.collect
          (fun (k, x) =>
            .ofResult (occurs p k) fun found =>
              if found then c.checkPart look k.plain schema x else .none)
          members)
      (membersOf operand)
  | "additionalProperties" =>
    .ofResult (extraMembers siblings members) fun extras =>
      match operand with
      | .object _ =>
        Findings.collect (fun (k, x) => c.checkPart look k.plain operand x) extras
      | operand => .demand (operand.isSet || extras.isEmpty) (extraText siblings extras)
  | "propertyNames" => Findings.collect (fun (k, _) => c.check look operand k.toValue) members
  | "dependencies" => checkDependencies look c operand v members
  | "dependentSchemas" =>
    Findings.collect
      (fun (k, schema) => if Members.contains k members then c.check look schema v else .none)
      (membersOf operand)
  | "unevaluatedProperties" =>
    checkUnseenMembers look fuel c (.object siblings) operand v members
  | _ => .none

/-- What a keyword that speaks of lists does not allow. -/
def itemKeyword (look : Search) (fuel : Nat) (c : Context) (siblings : List (Key × Value))
    (name : String) (operand v : Value) (items : List Value) : Findings :=
  match name with
  | "prefixItems" => checkEach look c (itemsOf operand) items
  | "items" => checkItems look c siblings operand items
  | "additionalItems" => checkAdditionalItems look c siblings operand items
  | "contains" => checkContains look c siblings operand v items
  | "unevaluatedItems" => checkUnseenItems look fuel c (.object siblings) v items
  | _ => .none

/-- What a keyword that speaks of all values and looks at further schemas does not allow. -/
def combination (look : Search) (c : Context) (siblings : List (Key × Value)) (name : String)
    (operand v : Value) : Findings :=
  match name with
  | "$ref" | "$dynamicRef" => c.checkFound look (asKeyword (c.target operand)) v
  | "$recursiveRef" => c.checkFound look (c.library.lookupRecursive c.scope) v
  | "allOf" => Findings.collect (fun schema => c.check look schema v) (itemsOf operand)
  | "anyOf" => checkChoice look c false operand v
  | "oneOf" => checkChoice look c true operand v
  | "not" =>
    .ofResult (c.allows look operand v) fun ok =>
      .demand (!ok) (v.literal ++ " should not be valid under " ++ operand.literal)
  | "if" =>
    .ofResult (c.allows look operand v) fun ok =>
      match Members.get? (.text (if ok then "then" else "else")) siblings with
      | some schema => c.check look schema v
      | none => .none
  | "extends" =>
    match operand with
    | .object _ => c.check look operand v
    | operand => Findings.collect (fun schema => c.check look schema v) (itemsOf operand)
  | "disallow" =>
    Findings.collect
      (fun type =>
        .ofResult (c.allows look (.ofFields [("type", .list [type])]) v) fun ok =>
          .demand (!ok) (type.literal ++ " is disallowed for " ++ v.literal))
      (typesOf operand)
  | "format" => checkFormat c operand v
  | _ => .none

/-- What a type that may be a schema does not allow. -/
def checkTypes (look : Search) (c : Context) (siblings : List (Key × Value)) (operand v : Value) :
    Findings :=
  let types := typesOf operand
  let name (type : Value) : String := match type with
    | .object members => ((Members.get? (.text "name") members).getD type).literal
    | type => type.literal
  .ofResult (anyOf (c.isOfType look siblings v) types) fun ok =>
    .demand ok (v.literal ++ " is not of type " ++ Text.join ", " (types.map name))

/-- The names of the keywords that speak of mappings and look at further schemas. -/
def memberKeywords : List String :=
  ["properties", "patternProperties", "additionalProperties", "propertyNames", "dependencies",
    "dependentSchemas", "unevaluatedProperties"]

/-- The names of the keywords that speak of lists and look at further schemas. -/
def itemKeywords : List String :=
  ["prefixItems", "items", "additionalItems", "contains", "unevaluatedItems"]

/-- The names of the keywords that speak of all values and look at further schemas. -/
def combinations : List String :=
  ["$ref", "$dynamicRef", "$recursiveRef", "allOf", "anyOf", "oneOf", "not", "if", "extends",
    "disallow", "format"]

/-- What one keyword does not allow; `siblings` are all keywords of its schema. -/
def keyword (look : Search) (fuel : Nat) (c : Context) (siblings : List (Key × Value)) (key : Key)
    (operand v : Value) : Findings :=
  match key with
  | .text name =>
    if !c.dialect.keywords.contains name then .none
    else if memberKeywords.contains name then
      match v with
      | .object members => memberKeyword look fuel c siblings name operand v members
      | _ => .none
    else if itemKeywords.contains name then
      match v with
      | .list items => itemKeyword look fuel c siblings name operand v items
      | _ => .none
    else if combinations.contains name then combination look c siblings name operand v
    else if name = "type" && c.dialect = .draft3 then checkTypes look c siblings operand v
    else assertion c.dialect siblings name operand v
  | _ => .none

/-- Looks for what the keywords of a schema do not allow in a value. -/
def search : (fuel : Nat) → Search
  | 0, _, _, _, _ => .stopped .tooDeep
  | fuel + 1, c, lister, schema, v =>
    .ofResult (keywordsIn lister schema) fun keywords =>
      Findings.collect
        (fun (key, operand) => keyword (search fuel) fuel c (membersOf schema) key operand v) keywords

/-- How deep schemas may lead into schemas. -/
def depth : Nat := 480

/-- What a document that is a schema does not allow in a value. -/
def check (library : Library) (checksFormats : Bool) (v : Value) : Findings :=
  let c : Context := ⟨library, .draft2020, library.scope, checksFormats⟩
  match library.root.contents with
  | .bool true => .none
  | .bool false => .one ("False schema does not allow " ++ v.literal)
  | schema => search depth c .draft2020 schema v

end Switchboard.Schema
