import Switchboard.Schema.Metaschema.Parts

/-!
The schemas of schemas of the drafts that are named after a month, 2019-09 and 2020-12, with their
parts for the several vocabularies.
-/
namespace Switchboard.Schema.Metaschema.Draft2019

/-- The schema of schemas, which refers to its parts. -/
def whole : Value :=
  doc [
    ("$schema", .str (yearly "2019-09" "schema")), ("$id", .str (yearly "2019-09" "schema")),
    ("$vocabulary", doc [
      (yearly "2019-09" "vocab/core", .bool true),
      (yearly "2019-09" "vocab/applicator", .bool true),
      (yearly "2019-09" "vocab/validation", .bool true),
      (yearly "2019-09" "vocab/meta-data", .bool true),
      (yearly "2019-09" "vocab/format", .bool false),
      (yearly "2019-09" "vocab/content", .bool true)]),
    ("$recursiveAnchor", .bool true),
    ("title", .str "Core and Validation specifications meta-schema"),
    ("allOf", .list [
      refTo "meta/core", refTo "meta/applicator", refTo "meta/validation", refTo "meta/meta-data",
      refTo "meta/format", refTo "meta/content"]),
    ("type", texts ["object", "boolean"]),
    ("properties", doc [
      ("definitions", doc [
        ("$comment", .str ("While no longer an official keyword as it is replaced by $defs, "
          ++ "this keyword is retained in the meta-schema to prevent incompatible extensions "
          ++ "as it remains in common use.")),
        ("type", .str "object"), ("additionalProperties", recursively), ("default", doc [])]),
      ("dependencies", doc [
        ("$comment", .str ("\"dependencies\" is no longer a keyword, but schema authors should "
          ++ "avoid redefining it to facilitate a smooth transition from \"dependentSchemas\" "
          ++ "and \"dependentRequired\"")),
        ("type", .str "object"),
        ("additionalProperties", doc [
          ("anyOf", .list [recursively, refTo "meta/validation#/$defs/stringArray"])])])])]

/-- The part for the vocabulary `core`. -/
def core : Value :=
  doc [
    ("$schema", .str (yearly "2019-09" "schema")), ("$id", .str (yearly "2019-09" "meta/core")),
    ("$vocabulary", doc [(yearly "2019-09" "vocab/core", .bool true)]),
    ("$recursiveAnchor", .bool true), ("title", .str "Core vocabulary meta-schema"),
    ("type", texts ["object", "boolean"]),
    ("properties", doc [
      ("$id", doc [
        ("type", .str "string"), ("format", .str "uri-reference"),
        ("$comment", .str "Non-empty fragments not allowed."), ("pattern", .str "^[^#]*#?$")]),
      ("$schema", doc [("type", .str "string"), ("format", .str "uri")]),
      ("$anchor", doc [("type", .str "string"), ("pattern", .str "^[A-Za-z][-A-Za-z0-9.:_]*$")]),
      ("$ref", doc [("type", .str "string"), ("format", .str "uri-reference")]),
      ("$recursiveRef", doc [("type", .str "string"), ("format", .str "uri-reference")]),
      ("$recursiveAnchor", doc [("type", .str "boolean"), ("default", .bool false)]),
      ("$vocabulary", doc [
        ("type", .str "object"),
        ("propertyNames", doc [("type", .str "string"), ("format", .str "uri")]),
        ("additionalProperties", kind "boolean")]),
      ("$comment", kind "string"),
      ("$defs", doc [
        ("type", .str "object"), ("additionalProperties", recursively), ("default", doc [])])])]

/-- The part for the vocabulary `applicator`. -/
def applicator : Value :=
  doc [
    ("$schema", .str (yearly "2019-09" "schema")),
    ("$id", .str (yearly "2019-09" "meta/applicator")),
    ("$vocabulary", doc [(yearly "2019-09" "vocab/applicator", .bool true)]),
    ("$recursiveAnchor", .bool true), ("title", .str "Applicator vocabulary meta-schema"),
    ("type", texts ["object", "boolean"]),
    ("properties", doc [
      ("additionalItems", recursively), ("unevaluatedItems", recursively),
      ("items", doc [("anyOf", .list [recursively, refTo "#/$defs/schemaArray"])]),
      ("contains", recursively), ("additionalProperties", recursively),
      ("unevaluatedProperties", recursively),
      ("properties", doc [
        ("type", .str "object"), ("additionalProperties", recursively), ("default", doc [])]),
      ("patternProperties", doc [
        ("type", .str "object"), ("additionalProperties", recursively),
        ("propertyNames", doc [("format", .str "regex")]), ("default", doc [])]),
      ("dependentSchemas", doc [("type", .str "object"), ("additionalProperties", recursively)]),
      ("propertyNames", recursively), ("if", recursively), ("then", recursively),
      ("else", recursively), ("allOf", refTo "#/$defs/schemaArray"),
      ("anyOf", refTo "#/$defs/schemaArray"), ("oneOf", refTo "#/$defs/schemaArray"),
      ("not", recursively)]),
    ("$defs", doc [
      ("schemaArray", doc [("type", .str "array"), ("minItems", .int 1), ("items", recursively)])])]

/-- The part for the vocabulary `validation`. -/
def validation : Value :=
  doc [
    ("$schema", .str (yearly "2019-09" "schema")),
    ("$id", .str (yearly "2019-09" "meta/validation")),
    ("$vocabulary", doc [(yearly "2019-09" "vocab/validation", .bool true)]),
    ("$recursiveAnchor", .bool true), ("title", .str "Validation vocabulary meta-schema"),
    ("type", texts ["object", "boolean"]),
    ("properties", doc [
      ("multipleOf", doc [("type", .str "number"), ("exclusiveMinimum", .int 0)]),
      ("maximum", kind "number"), ("exclusiveMaximum", kind "number"), ("minimum", kind "number"),
      ("exclusiveMinimum", kind "number"), ("maxLength", refTo "#/$defs/nonNegativeInteger"),
      ("minLength", refTo "#/$defs/nonNegativeIntegerDefault0"),
      ("pattern", doc [("type", .str "string"), ("format", .str "regex")]),
      ("maxItems", refTo "#/$defs/nonNegativeInteger"),
      ("minItems", refTo "#/$defs/nonNegativeIntegerDefault0"),
      ("uniqueItems", doc [("type", .str "boolean"), ("default", .bool false)]),
      ("maxContains", refTo "#/$defs/nonNegativeInteger"),
      ("minContains", doc [("$ref", .str "#/$defs/nonNegativeInteger"), ("default", .int 1)]),
      ("maxProperties", refTo "#/$defs/nonNegativeInteger"),
      ("minProperties", refTo "#/$defs/nonNegativeIntegerDefault0"),
      ("required", refTo "#/$defs/stringArray"),
      ("dependentRequired", doc [
        ("type", .str "object"), ("additionalProperties", refTo "#/$defs/stringArray")]),
      ("const", .bool true), ("enum", doc [("type", .str "array"), ("items", .bool true)]),
      ("type", doc [
        ("anyOf", .list [
          refTo "#/$defs/simpleTypes",
          doc [
            ("type", .str "array"), ("items", refTo "#/$defs/simpleTypes"), ("minItems", .int 1),
            ("uniqueItems", .bool true)]])])]),
    ("$defs", doc [
      ("nonNegativeInteger", doc [("type", .str "integer"), ("minimum", .int 0)]),
      ("nonNegativeIntegerDefault0", doc [
        ("$ref", .str "#/$defs/nonNegativeInteger"), ("default", .int 0)]),
      ("simpleTypes", doc [
        ("enum", texts ["array", "boolean", "integer", "null", "number", "object", "string"])]),
      ("stringArray", doc [
        ("type", .str "array"), ("items", kind "string"), ("uniqueItems", .bool true),
        ("default", .list [])])])]

/-- The part for the vocabulary `meta-data`. -/
def metaData : Value :=
  doc [
    ("$schema", .str (yearly "2019-09" "schema")),
    ("$id", .str (yearly "2019-09" "meta/meta-data")),
    ("$vocabulary", doc [(yearly "2019-09" "vocab/meta-data", .bool true)]),
    ("$recursiveAnchor", .bool true), ("title", .str "Meta-data vocabulary meta-schema"),
    ("type", texts ["object", "boolean"]),
    ("properties", doc [
      ("title", kind "string"), ("description", kind "string"), ("default", .bool true),
      ("deprecated", doc [("type", .str "boolean"), ("default", .bool false)]),
      ("readOnly", doc [("type", .str "boolean"), ("default", .bool false)]),
      ("writeOnly", doc [("type", .str "boolean"), ("default", .bool false)]),
      ("examples", doc [("type", .str "array"), ("items", .bool true)])])]

/-- The part for the vocabulary `format`. -/
def format : Value :=
  doc [
    ("$schema", .str (yearly "2019-09" "schema")), ("$id", .str (yearly "2019-09" "meta/format")),
    ("$vocabulary", doc [(yearly "2019-09" "vocab/format", .bool true)]),
    ("$recursiveAnchor", .bool true), ("title", .str "Format vocabulary meta-schema"),
    ("type", texts ["object", "boolean"]), ("properties", doc [("format", kind "string")])]

/-- The part for the vocabulary `content`. -/
def content : Value :=
  doc [
    ("$schema", .str (yearly "2019-09" "schema")),
    ("$id", .str (yearly "2019-09" "meta/content")),
    ("$vocabulary", doc [(yearly "2019-09" "vocab/content", .bool true)]),
    ("$recursiveAnchor", .bool true), ("title", .str "Content vocabulary meta-schema"),
    ("type", texts ["object", "boolean"]),
    ("properties", doc [
      ("contentMediaType", kind "string"), ("contentEncoding", kind "string"),
      ("contentSchema", recursively)])]

/-- All documents of the draft. -/
def documents : List Value := [whole, core, applicator, validation, metaData, format, content]

end Switchboard.Schema.Metaschema.Draft2019

namespace Switchboard.Schema.Metaschema.Draft2020

/-- The schema of schemas, which refers to its parts. -/
def whole : Value :=
  doc [
    ("$schema", .str (yearly "2020-12" "schema")), ("$id", .str (yearly "2020-12" "schema")),
    ("$vocabulary", doc [
      (yearly "2020-12" "vocab/core", .bool true),
      (yearly "2020-12" "vocab/applicator", .bool true),
      (yearly "2020-12" "vocab/unevaluated", .bool true),
      (yearly "2020-12" "vocab/validation", .bool true),
      (yearly "2020-12" "vocab/meta-data", .bool true),
      (yearly "2020-12" "vocab/format-annotation", .bool true),
      (yearly "2020-12" "vocab/content", .bool true)]),
    ("$dynamicAnchor", .str "meta"),
    ("title", .str "Core and Validation specifications meta-schema"),
    ("allOf", .list [
      refTo "meta/core", refTo "meta/applicator", refTo "meta/unevaluated",
      refTo "meta/validation", refTo "meta/meta-data", refTo "meta/format-annotation",
      refTo "meta/content"]),
    ("type", texts ["object", "boolean"]),
    ("$comment", .str ("This meta-schema also defines keywords that have appeared in previous "
      ++ "drafts in order to prevent incompatible extensions as they remain in common use.")),
    ("properties", doc [
      ("definitions", doc [
        ("$comment", .str "\"definitions\" has been replaced by \"$defs\"."),
        ("type", .str "object"), ("additionalProperties", anySchema), ("deprecated", .bool true),
        ("default", doc [])]),
      ("dependencies", doc [
        ("$comment", .str ("\"dependencies\" has been split and replaced by "
          ++ "\"dependentSchemas\" and \"dependentRequired\" in order to serve their differing "
          ++ "semantics.")),
        ("type", .str "object"),
        ("additionalProperties", doc [
          ("anyOf", .list [anySchema, refTo "meta/validation#/$defs/stringArray"])]),
        ("deprecated", .bool true), ("default", doc [])]),
      ("$recursiveAnchor", doc [
        ("$comment", .str "\"$recursiveAnchor\" has been replaced by \"$dynamicAnchor\"."),
        ("$ref", .str "meta/core#/$defs/anchorString"), ("deprecated", .bool true)]),
      ("$recursiveRef", doc [
        ("$comment", .str "\"$recursiveRef\" has been replaced by \"$dynamicRef\"."),
        ("$ref", .str "meta/core#/$defs/uriReferenceString"), ("deprecated", .bool true)])])]

/-- The part for the vocabulary `core`. -/
def core : Value :=
  doc [
    ("$schema", .str (yearly "2020-12" "schema")), ("$id", .str (yearly "2020-12" "meta/core")),
    ("$dynamicAnchor", .str "meta"), ("title", .str "Core vocabulary meta-schema"),
    ("type", texts ["object", "boolean"]),
    ("properties", doc [
      ("$id", doc [
        ("$ref", .str "#/$defs/uriReferenceString"),
        ("$comment", .str "Non-empty fragments not allowed."), ("pattern", .str "^[^#]*#?$")]),
      ("$schema", refTo "#/$defs/uriString"), ("$ref", refTo "#/$defs/uriReferenceString"),
      ("$anchor", refTo "#/$defs/anchorString"),
      ("$dynamicRef", refTo "#/$defs/uriReferenceString"),
      ("$dynamicAnchor", refTo "#/$defs/anchorString"),
      ("$vocabulary", doc [
        ("type", .str "object"), ("propertyNames", refTo "#/$defs/uriString"),
        ("additionalProperties", kind "boolean")]),
      ("$comment", kind "string"),
      ("$defs", doc [("type", .str "object"), ("additionalProperties", anySchema)])]),
    ("$defs", doc [
      ("anchorString", doc [
        ("type", .str "string"), ("pattern", .str "^[A-Za-z_][-A-Za-z0-9._]*$")]),
      ("uriString", doc [("type", .str "string"), ("format", .str "uri")]),
      ("uriReferenceString", doc [("type", .str "string"), ("format", .str "uri-reference")])])]

/-- The part for the vocabulary `applicator`. -/
def applicator : Value :=
  doc [
    ("$schema", .str (yearly "2020-12" "schema")),
    ("$id", .str (yearly "2020-12" "meta/applicator")), ("$dynamicAnchor", .str "meta"),
    ("title", .str "Applicator vocabulary meta-schema"), ("type", texts ["object", "boolean"]),
    ("properties", doc [
      ("prefixItems", refTo "#/$defs/schemaArray"), ("items", anySchema), ("contains", anySchema),
      ("additionalProperties", anySchema),
      ("properties", doc [
        ("type", .str "object"), ("additionalProperties", anySchema), ("default", doc [])]),
      ("patternProperties", doc [
        ("type", .str "object"), ("additionalProperties", anySchema),
        ("propertyNames", doc [("format", .str "regex")]), ("default", doc [])]),
      ("dependentSchemas", doc [
        ("type", .str "object"), ("additionalProperties", anySchema), ("default", doc [])]),
      ("propertyNames", anySchema), ("if", anySchema), ("then", anySchema), ("else", anySchema),
      ("allOf", refTo "#/$defs/schemaArray"), ("anyOf", refTo "#/$defs/schemaArray"),
      ("oneOf", refTo "#/$defs/schemaArray"), ("not", anySchema)]),
    ("$defs", doc [
      ("schemaArray", doc [("type", .str "array"), ("minItems", .int 1), ("items", anySchema)])])]

/-- The part for the vocabulary `unevaluated`. -/
def unevaluated : Value :=
  doc [
    ("$schema", .str (yearly "2020-12" "schema")),
    ("$id", .str (yearly "2020-12" "meta/unevaluated")), ("$dynamicAnchor", .str "meta"),
    ("title", .str "Unevaluated applicator vocabulary meta-schema"),
    ("type", texts ["object", "boolean"]),
    ("properties", doc [("unevaluatedItems", anySchema), ("unevaluatedProperties", anySchema)])]

/-- The part for the vocabulary `validation`. -/
def validation : Value :=
  doc [
    ("$schema", .str (yearly "2020-12" "schema")),
    ("$id", .str (yearly "2020-12" "meta/validation")), ("$dynamicAnchor", .str "meta"),
    ("title", .str "Validation vocabulary meta-schema"), ("type", texts ["object", "boolean"]),
    ("properties", doc [
      ("type", doc [
        ("anyOf", .list [
          refTo "#/$defs/simpleTypes",
          doc [
            ("type", .str "array"), ("items", refTo "#/$defs/simpleTypes"), ("minItems", .int 1),
            ("uniqueItems", .bool true)]])]),
      ("const", .bool true), ("enum", doc [("type", .str "array"), ("items", .bool true)]),
      ("multipleOf", doc [("type", .str "number"), ("exclusiveMinimum", .int 0)]),
      ("maximum", kind "number"), ("exclusiveMaximum", kind "number"), ("minimum", kind "number"),
      ("exclusiveMinimum", kind "number"), ("maxLength", refTo "#/$defs/nonNegativeInteger"),
      ("minLength", refTo "#/$defs/nonNegativeIntegerDefault0"),
      ("pattern", doc [("type", .str "string"), ("format", .str "regex")]),
      ("maxItems", refTo "#/$defs/nonNegativeInteger"),
      ("minItems", refTo "#/$defs/nonNegativeIntegerDefault0"),
      ("uniqueItems", doc [("type", .str "boolean"), ("default", .bool false)]),
      ("maxContains", refTo "#/$defs/nonNegativeInteger"),
      ("minContains", doc [("$ref", .str "#/$defs/nonNegativeInteger"), ("default", .int 1)]),
      ("maxProperties", refTo "#/$defs/nonNegativeInteger"),
      ("minProperties", refTo "#/$defs/nonNegativeIntegerDefault0"),
      ("required", refTo "#/$defs/stringArray"),
      ("dependentRequired", doc [
        ("type", .str "object"), ("additionalProperties", refTo "#/$defs/stringArray")])]),
    ("$defs", doc [
      ("nonNegativeInteger", doc [("type", .str "integer"), ("minimum", .int 0)]),
      ("nonNegativeIntegerDefault0", doc [
        ("$ref", .str "#/$defs/nonNegativeInteger"), ("default", .int 0)]),
      ("simpleTypes", doc [
        ("enum", texts ["array", "boolean", "integer", "null", "number", "object", "string"])]),
      ("stringArray", doc [
        ("type", .str "array"), ("items", kind "string"), ("uniqueItems", .bool true),
        ("default", .list [])])])]

/-- The part for the vocabulary `meta-data`. -/
def metaData : Value :=
  doc [
    ("$schema", .str (yearly "2020-12" "schema")),
    ("$id", .str (yearly "2020-12" "meta/meta-data")), ("$dynamicAnchor", .str "meta"),
    ("title", .str "Meta-data vocabulary meta-schema"), ("type", texts ["object", "boolean"]),
    ("properties", doc [
      ("title", kind "string"), ("description", kind "string"), ("default", .bool true),
      ("deprecated", doc [("type", .str "boolean"), ("default", .bool false)]),
      ("readOnly", doc [("type", .str "boolean"), ("default", .bool false)]),
      ("writeOnly", doc [("type", .str "boolean"), ("default", .bool false)]),
      ("examples", doc [("type", .str "array"), ("items", .bool true)])])]

/-- The part for the vocabulary `format-annotation`. -/
def formatAnnotation : Value :=
  doc [
    ("$schema", .str (yearly "2020-12" "schema")),
    ("$id", .str (yearly "2020-12" "meta/format-annotation")), ("$dynamicAnchor", .str "meta"),
    ("title", .str "Format vocabulary meta-schema for annotation results"),
    ("type", texts ["object", "boolean"]), ("properties", doc [("format", kind "string")])]

/-- The part for the vocabulary `format-assertion`. -/
def formatAssertion : Value :=
  doc [
    ("$schema", .str (yearly "2020-12" "schema")),
    ("$id", .str (yearly "2020-12" "meta/format-assertion")), ("$dynamicAnchor", .str "meta"),
    ("title", .str "Format vocabulary meta-schema for assertion results"),
    ("type", texts ["object", "boolean"]), ("properties", doc [("format", kind "string")])]

/-- The part for the vocabulary `content`. -/
def content : Value :=
  doc [
    ("$schema", .str (yearly "2020-12" "schema")),
    ("$id", .str (yearly "2020-12" "meta/content")), ("$dynamicAnchor", .str "meta"),
    ("title", .str "Content vocabulary meta-schema"), ("type", texts ["object", "boolean"]),
    ("properties", doc [
      ("contentEncoding", kind "string"), ("contentMediaType", kind "string"),
      ("contentSchema", anySchema)])]

/-- All documents of the draft. -/
def documents : List Value := [whole, core, applicator, unevaluated, validation, metaData, formatAnnotation, formatAssertion, content]

end Switchboard.Schema.Metaschema.Draft2020
