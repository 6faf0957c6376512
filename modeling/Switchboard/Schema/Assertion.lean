import Switchboard.Schema.Dialect
import Switchboard.Schema.Equality
import Switchboard.Schema.Finding
import Switchboard.Regex.Match

/-!
The keywords that a value is held against without looking at further schemas: types, bounds, patterns,
required keys and enumerated values.

`assertion` gives what such a keyword does not allow. A keyword of a draft may depend on its siblings,
the other keywords of the schema.
-/
namespace Switchboard.Schema

/-- The literals of several values, and the verb that goes with their number. -/
def listing (literals : List String) : String :=
  Text.join ", " literals ++ (if literals.length = 1 then " was" else " were")

/-- Puts a key in front of the first one whose text comes after its own. -/
def insertKey (k : Key) : List Key → List Key
  | [] => [k]
  | l :: rest => if k.plain < l.plain then k :: l :: rest else l :: insertKey k rest

/-- Keys in the order of their texts. -/
def sortKeys (ks : List Key) : List Key := ks.foldl (fun sorted k => insertKey k sorted) []

/-- The members of a mapping, none for another value. -/
def membersOf : Value → List (Key × Value)
  | .object members => members
  | _ => []

/-- The items of a list, none for another value. -/
def itemsOf : Value → List Value
  | .list items | .tuple items => items
  | _ => []

/-- Whether a mapping has a value as a key. -/
def hasKey (members : List (Key × Value)) (v : Value) : Bool :=
  match Key.ofValue? v with
  | some k => Members.contains k members
  | none => false

/-! ### Types -/

/-- Whether a value is of a type, if a draft knows the type. Drafts up to the fourth do not take whole
doubles for integers. -/
def isType? (d : Dialect) (v : Value) (name : String) : Option Bool :=
  match name with
  | "array" => some (match v with | .list _ => true | _ => false)
  | "boolean" => some (match v with | .bool _ => true | _ => false)
  | "integer" => some (match v with | .int _ => true | v => !d.isPlain && v.isWhole)
  | "null" => some (match v with | .null => true | _ => false)
  | "number" => some v.isNumber
  | "object" => some (match v with | .object _ => true | _ => false)
  | "string" => some (match v with | .str _ => true | _ => false)
  | "any" => if d = .draft3 then some true else none
  | _ => none

/-- The types that a keyword names. -/
def typesOf : Value → List Value
  | .list vs => vs
  | v => [v]

/-- Whether a value is of a type that a schema names. -/
def isTypeIn (d : Dialect) (siblings : List (Key × Value)) (v type : Value) :
    Except Interruption Bool :=
  match type with
  | .str name =>
    match isType? d v name with
    | some found => .ok found
    | none => .error (.unknownType type.literal (Value.object siblings).literal v.literal)
  | _ => .error (.unknownType type.literal (Value.object siblings).literal v.literal)

/-- Whether one of a list satisfies a test; nothing is asked behind the first that does. -/
def anyOf {α : Type} (test : α → Except Interruption Bool) : List α → Except Interruption Bool
  | [] => .ok false
  | a :: rest => do if ← test a then return true else anyOf test rest

/-! ### Patterns -/

/-- Whether an expression matches somewhere in a key or a text. -/
def occurs (pattern : Key) (searched : Key) : Except Interruption Bool :=
  match pattern, searched with
  | .text pattern, .text searched =>
    match Regex.read pattern with
    | .ok p => .ok (Regex.search p searched)
    | .error fault => .error (.pattern fault)
  | .text pattern, searched =>
    match Regex.read pattern with
    | .ok _ => .error (.searchedKind searched.toValue.typeName)
    | .error fault => .error (.pattern fault)
  | _, _ => .error .patternKind

/-- The expression that matches where any of the keys does, if they are texts. -/
def joinedPattern (position : Nat) : List Key → Except Interruption (List String)
  | [] => .ok []
  | .text s :: rest => (joinedPattern (position + 1) rest).map (s :: ·)
  | k :: _ => .error (.joinedKind position k.toValue.typeName)

/-- The members that neither `properties` nor `patternProperties` speak of. -/
def extraMembers (siblings members : List (Key × Value)) :
    Except Interruption (List (Key × Value)) := do
  let named := membersOf ((Members.get? (.text "properties") siblings).getD .null)
  let patterns := membersOf ((Members.get? (.text "patternProperties") siblings).getD .null)
  let pattern := Text.join "|" (← joinedPattern 0 (patterns.map (·.1)))
  members.filterM fun (k, _) =>
    if Members.contains k named then .ok false
    else if pattern.isEmpty then .ok true
    else (occurs (.text pattern) k).map (!·)

/-- What extra members are reported as. -/
def extraText (siblings extras : List (Key × Value)) : String :=
  let literals (members : List (Key × Value)) : List String :=
    (sortKeys (members.map (·.1))).map Key.literal
  match Members.get? (.text "patternProperties") siblings with
  | some patterns =>
    Text.join ", " (literals extras) ++ (if extras.length = 1 then " does" else " do")
      ++ " not match any of the regexes: " ++ Text.join ", " (literals (membersOf patterns))
  | none =>
    "Additional properties are not allowed (" ++ listing (literals extras) ++ " unexpected)"

/-! ### Numbers and counts -/

/-- Whether a count is less than a number. -/
def isFewer (count : Nat) (limit : Value) : Bool := (Value.int count).isLess limit

/-- Whether a count is greater than a number. -/
def isMore (count : Nat) (limit : Value) : Bool := limit.isLess (.int count)

/-- A value may not have fewer parts than a limit. -/
def atLeast (count : Option Nat) (v limit : Value) (otherwise : String) : Findings :=
  .demand (!(count.map fun n => isFewer n limit).getD false)
    (v.literal ++ " "
      ++ (if limit.isSameNumber (.int 1) then "should be non-empty" else otherwise))

/-- A value may not have more parts than a limit. -/
def atMost (count : Option Nat) (v limit : Value) (otherwise : String) : Findings :=
  .demand (!(count.map fun n => isMore n limit).getD false)
    (v.literal ++ " "
      ++ (if limit.isSameNumber (.int 0) then "is expected to be empty" else otherwise))

/-- The number of items, of characters and of members of a value that has them. -/
def itemCount? : Value → Option Nat
  | .list items => some items.length
  | _ => none

@[inherit_doc itemCount?]
def lengthOf? : Value → Option Nat
  | .str s => some s.length
  | _ => none

@[inherit_doc itemCount?]
def memberCount? : Value → Option Nat
  | .object members => some members.length
  | _ => none

/-- Whether a quotient of two fractions is whole. -/
def divides (num : Int) (den : Nat) (stepNum : Int) (stepDen : Nat) : Bool :=
  (num * stepDen) % (stepNum * den) = 0

/-- Whether a number is a multiple of another. Steps that are integers divide exactly; other steps
divide with rounding, except that a quotient beyond all doubles is formed exactly. -/
def isMultiple (v step : Value) : Except Interruption Bool :=
  match v, step with
  | .int i, .int n => .ok (i % n = 0)
  | .float x, .int n =>
    match Decimal.ofInt? n with
    | none => .error .tooLarge
    | some n =>
      match Decimal.toQuotient? x, Decimal.toQuotient? n with
      | some (a, b), some (c, d) => .ok (divides a b c d)
      | _, _ => .ok false
  | v, .float d =>
    let start : Option Float := match v with
      | .int i => Decimal.ofInt? i
      | .float x => some x
      | _ => none
    match start with
    | none => .error .tooLarge
    | some x =>
      let quotient := x / d
      if quotient.isNaN then .error .undefinedQuotient
      else if quotient.isFinite then .ok (Decimal.toInt? quotient).isSome
      else
        match v.magnitude?, Decimal.toQuotient? d with
        | some (.finite a b), some (c, e) => .ok (divides a b c e)
        | _, _ => .error .infiniteQuotient
  | _, _ => .ok true

/-- Whether a bound itself is excluded, which drafts up to the fourth say by a sibling. -/
def isExcluded (d : Dialect) (siblings : List (Key × Value)) (name : String) : Bool :=
  d.isPlain && ((Members.get? (.text name) siblings).map Value.isSet).getD false

/-- A number may not be less than a bound, or may not be the bound either. -/
def lowerBound (excluded : Bool) (v bound : Value) : Findings :=
  let fails := v.isNumber && if excluded then v.isAtMost bound else v.isLess bound
  .demand (!fails)
    (v.literal ++ " is less than " ++ (if excluded then "or equal to " else "") ++ "the minimum of "
      ++ bound.literal)

/-- A number may not be greater than a bound, or may not be the bound either. -/
def upperBound (excluded : Bool) (v bound : Value) : Findings :=
  let fails := v.isNumber && if excluded then bound.isAtMost v else bound.isLess v
  .demand (!fails)
    (v.literal ++ " is greater than " ++ (if excluded then "or equal to " else "")
      ++ "the maximum of " ++ bound.literal)

/-! ### Keys -/

/-- All names of a list are keys of a mapping. -/
def requireAll (wording : Value → String) (members : List (Key × Value)) (names : List Value) :
    Findings :=
  Findings.collect (fun name => .demand (hasKey members name) (wording name)) names

/-- The wording for a key that is not there although another one is. -/
def dependencyText (k : Key) (name : Value) : String :=
  name.literal ++ " is a dependency of " ++ k.literal

/-- The keywords of all drafts. -/
def commonKeywords : List String :=
  ["$ref", "additionalProperties", "enum", "format", "items", "maxItems", "maxLength", "maximum",
    "minItems", "minLength", "minimum", "pattern", "patternProperties", "properties", "type",
    "uniqueItems"]

/-- The further keywords of all drafts from the fourth on. -/
def combiningKeywords : List String :=
  ["allOf", "anyOf", "maxProperties", "minProperties", "multipleOf", "not", "oneOf", "required"]

/-- The further keywords of all drafts from the sixth on. -/
def bareKeywords : List String :=
  ["const", "contains", "exclusiveMaximum", "exclusiveMinimum", "propertyNames"]

/-- The keywords for what other keywords leave out. -/
def restKeywords : List String :=
  ["dependentRequired", "dependentSchemas", "if", "unevaluatedItems", "unevaluatedProperties"]

/-- The keywords of a draft; others mean nothing. -/
def Dialect.keywords : Dialect → List String
  | .draft3 =>
    ["additionalItems", "dependencies", "disallow", "divisibleBy", "extends"] ++ commonKeywords
  | .draft4 => ["additionalItems", "dependencies"] ++ combiningKeywords ++ commonKeywords
  | .draft6 =>
    ["additionalItems", "dependencies"] ++ bareKeywords ++ combiningKeywords ++ commonKeywords
  | .draft7 =>
    ["additionalItems", "dependencies", "if"] ++ bareKeywords ++ combiningKeywords
      ++ commonKeywords
  | .draft2019 =>
    ["additionalItems", "$recursiveRef"] ++ restKeywords ++ bareKeywords ++ combiningKeywords
      ++ commonKeywords
  | .draft2020 =>
    ["$dynamicRef", "prefixItems"] ++ restKeywords ++ bareKeywords ++ combiningKeywords
      ++ commonKeywords

/-- What a keyword that looks at no further schemas does not allow in a value. -/
def assertion (d : Dialect) (siblings : List (Key × Value)) (name : String) (operand v : Value) :
    Findings :=
  match name with
  | "type" =>
    let types := typesOf operand
    .ofResult (anyOf (isTypeIn d siblings v) types) fun ok =>
      .demand ok (v.literal ++ " is not of type " ++ Text.join ", " (types.map Value.literal))
  | "enum" =>
    .demand ((itemsOf operand).any (same · v)) (v.literal ++ " is not one of " ++ operand.literal)
  | "const" => .demand (same v operand) (operand.literal ++ " was expected")
  | "required" =>
    match v with
    | .object members =>
      requireAll (fun name => name.literal ++ " is a required property") members (itemsOf operand)
    | _ => .none
  | "dependentRequired" =>
    match v with
    | .object members =>
      Findings.collect
        (fun (k, names) =>
          if Members.contains k members then requireAll (dependencyText k) members (itemsOf names)
          else .none)
        (membersOf operand)
    | _ => .none
  | "minProperties" => atLeast (memberCount? v) v operand "does not have enough properties"
  | "maxProperties" => atMost (memberCount? v) v operand "has too many properties"
  | "minItems" => atLeast (itemCount? v) v operand "is too short"
  | "maxItems" => atMost (itemCount? v) v operand "is too long"
  | "minLength" => atLeast (lengthOf? v) v operand "is too short"
  | "maxLength" => atMost (lengthOf? v) v operand "is too long"
  | "uniqueItems" =>
    match v with
    | .list items =>
      .demand (!operand.isSet || isUnique items) (v.literal ++ " has non-unique elements")
    | _ => .none
  | "minimum" => lowerBound (isExcluded d siblings "exclusiveMinimum") v operand
  | "maximum" => upperBound (isExcluded d siblings "exclusiveMaximum") v operand
  | "exclusiveMinimum" => lowerBound true v operand
  | "exclusiveMaximum" => upperBound true v operand
  | "multipleOf" | "divisibleBy" =>
    if v.isNumber then
      .ofResult (isMultiple v operand) fun ok =>
        .demand ok (v.literal ++ " is not a multiple of " ++ operand.literal)
    else .none
  | "pattern" =>
    match v, Key.ofValue? operand with
    | .str s, some pattern =>
      .ofResult (occurs pattern (.text s)) fun found =>
        .demand found (v.literal ++ " does not match " ++ operand.literal)
    | _, _ => .none
  | _ => .none

end Switchboard.Schema
