import Switchboard.Schema.Metaschema.Parts

/-!
The schemas of schemas of the drafts that have a number: 3, 4, 6 and 7.
-/
namespace Switchboard.Schema.Metaschema.Draft3

/-- The schema of schemas of draft 3. -/
def whole : Value :=
  doc [
    ("$schema", .str (numbered 3)),
    ("dependencies", doc [
      ("exclusiveMaximum", .str "maximum"), ("exclusiveMinimum", .str "minimum")]),
    ("id", .str (numbered 3)),
    ("properties", doc [
      ("$ref", doc [("format", .str "uri"), ("type", .str "string")]),
      ("$schema", doc [("format", .str "uri"), ("type", .str "string")]),
      ("additionalItems", doc [("default", doc []), ("type", .list [refTo "#", .str "boolean"])]),
      ("additionalProperties", doc [
        ("default", doc []), ("type", .list [refTo "#", .str "boolean"])]),
      ("default", kind "any"),
      ("dependencies", doc [
        ("additionalProperties", doc [
          ("items", kind "string"), ("type", .list [.str "string", .str "array", refTo "#"])]),
        ("default", doc []), ("type", texts ["string", "array", "object"])]),
      ("description", kind "string"),
      ("disallow", doc [
        ("items", doc [("type", .list [.str "string", refTo "#"])]),
        ("type", texts ["string", "array"]), ("uniqueItems", .bool true)]),
      ("divisibleBy", doc [
        ("default", .int 1), ("exclusiveMinimum", .bool true), ("minimum", .int 0),
        ("type", .str "number")]),
      ("enum", kind "array"),
      ("exclusiveMaximum", doc [("default", .bool false), ("type", .str "boolean")]),
      ("exclusiveMinimum", doc [("default", .bool false), ("type", .str "boolean")]),
      ("extends", doc [
        ("default", doc []), ("items", refTo "#"), ("type", .list [refTo "#", .str "array"])]),
      ("format", kind "string"), ("id", doc [("format", .str "uri"), ("type", .str "string")]),
      ("items", doc [
        ("default", doc []), ("items", refTo "#"), ("type", .list [refTo "#", .str "array"])]),
      ("maxDecimal", doc [("minimum", .int 0), ("type", .str "number")]),
      ("maxItems", doc [("minimum", .int 0), ("type", .str "integer")]),
      ("maxLength", kind "integer"), ("maximum", kind "number"),
      ("minItems", doc [("default", .int 0), ("minimum", .int 0), ("type", .str "integer")]),
      ("minLength", doc [("default", .int 0), ("minimum", .int 0), ("type", .str "integer")]),
      ("minimum", kind "number"),
      ("pattern", doc [("format", .str "regex"), ("type", .str "string")]),
      ("patternProperties", doc [
        ("additionalProperties", refTo "#"), ("default", doc []), ("type", .str "object")]),
      ("properties", doc [
        ("additionalProperties", doc [("$ref", .str "#"), ("type", .str "object")]),
        ("default", doc []), ("type", .str "object")]),
      ("required", doc [("default", .bool false), ("type", .str "boolean")]),
      ("title", kind "string"),
      ("type", doc [
        ("default", .str "any"), ("items", doc [("type", .list [.str "string", refTo "#"])]),
        ("type", texts ["string", "array"]), ("uniqueItems", .bool true)]),
      ("uniqueItems", doc [("default", .bool false), ("type", .str "boolean")])]),
    ("type", .str "object")]

/-- All documents of the draft. -/
def documents : List Value := [whole]

end Switchboard.Schema.Metaschema.Draft3

namespace Switchboard.Schema.Metaschema.Draft4

/-- The schema of schemas of draft 4. -/
def whole : Value :=
  doc [
    ("$schema", .str (numbered 4)), ("default", doc []),
    ("definitions", doc [
      ("positiveInteger", doc [("minimum", .int 0), ("type", .str "integer")]),
      ("positiveIntegerDefault0", doc [
        ("allOf", .list [refTo "#/definitions/positiveInteger", doc [("default", .int 0)]])]),
      ("schemaArray", doc [("items", refTo "#"), ("minItems", .int 1), ("type", .str "array")]),
      ("simpleTypes", doc [
        ("enum", texts ["array", "boolean", "integer", "null", "number", "object", "string"])]),
      ("stringArray", doc [
        ("items", kind "string"), ("minItems", .int 1), ("type", .str "array"),
        ("uniqueItems", .bool true)])]),
    ("dependencies", doc [
      ("exclusiveMaximum", texts ["maximum"]), ("exclusiveMinimum", texts ["minimum"])]),
    ("description", .str "Core schema meta-schema"), ("id", .str (numbered 4)),
    ("properties", doc [
      ("$schema", doc [("format", .str "uri"), ("type", .str "string")]),
      ("additionalItems", doc [
        ("anyOf", .list [kind "boolean", refTo "#"]), ("default", doc [])]),
      ("additionalProperties", doc [
        ("anyOf", .list [kind "boolean", refTo "#"]), ("default", doc [])]),
      ("allOf", refTo "#/definitions/schemaArray"), ("anyOf", refTo "#/definitions/schemaArray"),
      ("default", doc []),
      ("definitions", doc [
        ("type", .str "object"), ("additionalProperties", refTo "#"), ("default", doc [])]),
      ("dependencies", doc [
        ("additionalProperties", doc [
          ("anyOf", .list [refTo "#", refTo "#/definitions/stringArray"])]),
        ("type", .str "object")]),
      ("description", kind "string"), ("enum", kind "array"),
      ("exclusiveMaximum", doc [("default", .bool false), ("type", .str "boolean")]),
      ("exclusiveMinimum", doc [("default", .bool false), ("type", .str "boolean")]),
      ("format", kind "string"), ("id", doc [("format", .str "uri"), ("type", .str "string")]),
      ("items", doc [
        ("anyOf", .list [refTo "#", refTo "#/definitions/schemaArray"]), ("default", doc [])]),
      ("maxItems", refTo "#/definitions/positiveInteger"),
      ("maxLength", refTo "#/definitions/positiveInteger"),
      ("maxProperties", refTo "#/definitions/positiveInteger"), ("maximum", kind "number"),
      ("minItems", refTo "#/definitions/positiveIntegerDefault0"),
      ("minLength", refTo "#/definitions/positiveIntegerDefault0"),
      ("minProperties", refTo "#/definitions/positiveIntegerDefault0"),
      ("minimum", kind "number"),
      ("multipleOf", doc [
        ("exclusiveMinimum", .bool true), ("minimum", .int 0), ("type", .str "number")]),
      ("not", refTo "#"), ("oneOf", refTo "#/definitions/schemaArray"),
      ("pattern", doc [("format", .str "regex"), ("type", .str "string")]),
      ("patternProperties", doc [
        ("type", .str "object"), ("additionalProperties", refTo "#"), ("default", doc [])]),
      ("properties", doc [
        ("type", .str "object"), ("additionalProperties", refTo "#"), ("default", doc [])]),
      ("required", refTo "#/definitions/stringArray"), ("title", kind "string"),
      ("type", doc [
        ("anyOf", .list [
          refTo "#/definitions/simpleTypes",
          doc [
            ("type", .str "array"), ("items", refTo "#/definitions/simpleTypes"),
            ("minItems", .int 1), ("uniqueItems", .bool true)]])]),
      ("uniqueItems", doc [("default", .bool false), ("type", .str "boolean")])]),
    ("type", .str "object")]

/-- All documents of the draft. -/
def documents : List Value := [whole]

end Switchboard.Schema.Metaschema.Draft4

namespace Switchboard.Schema.Metaschema.Draft6

/-- The schema of schemas of draft 6. -/
def whole : Value :=
  doc [
    ("$schema", .str (numbered 6)), ("$id", .str (numbered 6)),
    ("title", .str "Core schema meta-schema"),
    ("definitions", doc [
      ("schemaArray", doc [("type", .str "array"), ("minItems", .int 1), ("items", refTo "#")]),
      ("nonNegativeInteger", doc [("type", .str "integer"), ("minimum", .int 0)]),
      ("nonNegativeIntegerDefault0", doc [
        ("allOf", .list [refTo "#/definitions/nonNegativeInteger", doc [("default", .int 0)]])]),
      ("simpleTypes", doc [
        ("enum", texts ["array", "boolean", "integer", "null", "number", "object", "string"])]),
      ("stringArray", doc [
        ("type", .str "array"), ("items", kind "string"), ("uniqueItems", .bool true),
        ("default", .list [])])]),
    ("type", texts ["object", "boolean"]),
    ("properties", doc [
      ("$id", doc [("type", .str "string"), ("format", .str "uri-reference")]),
      ("$schema", doc [("type", .str "string"), ("format", .str "uri")]),
      ("$ref", doc [("type", .str "string"), ("format", .str "uri-reference")]),
      ("title", kind "string"), ("description", kind "string"), ("default", doc []),
      ("examples", doc [("type", .str "array"), ("items", doc [])]),
      ("multipleOf", doc [("type", .str "number"), ("exclusiveMinimum", .int 0)]),
      ("maximum", kind "number"), ("exclusiveMaximum", kind "number"), ("minimum", kind "number"),
      ("exclusiveMinimum", kind "number"),
      ("maxLength", refTo "#/definitions/nonNegativeInteger"),
      ("minLength", refTo "#/definitions/nonNegativeIntegerDefault0"),
      ("pattern", doc [("type", .str "string"), ("format", .str "regex")]),
      ("additionalItems", refTo "#"),
      ("items", doc [
        ("anyOf", .list [refTo "#", refTo "#/definitions/schemaArray"]), ("default", doc [])]),
      ("maxItems", refTo "#/definitions/nonNegativeInteger"),
      ("minItems", refTo "#/definitions/nonNegativeIntegerDefault0"),
      ("uniqueItems", doc [("type", .str "boolean"), ("default", .bool false)]),
      ("contains", refTo "#"), ("maxProperties", refTo "#/definitions/nonNegativeInteger"),
      ("minProperties", refTo "#/definitions/nonNegativeIntegerDefault0"),
      ("required", refTo "#/definitions/stringArray"), ("additionalProperties", refTo "#"),
      ("definitions", doc [
        ("type", .str "object"), ("additionalProperties", refTo "#"), ("default", doc [])]),
      ("properties", doc [
        ("type", .str "object"), ("additionalProperties", refTo "#"), ("default", doc [])]),
      ("patternProperties", doc [
        ("type", .str "object"), ("additionalProperties", refTo "#"),
        ("propertyNames", doc [("format", .str "regex")]), ("default", doc [])]),
      ("dependencies", doc [
        ("type", .str "object"),
        ("additionalProperties", doc [
          ("anyOf", .list [refTo "#", refTo "#/definitions/stringArray"])])]),
      ("propertyNames", refTo "#"), ("const", doc []), ("enum", kind "array"),
      ("type", doc [
        ("anyOf", .list [
          refTo "#/definitions/simpleTypes",
          doc [
            ("type", .str "array"), ("items", refTo "#/definitions/simpleTypes"),
            ("minItems", .int 1), ("uniqueItems", .bool true)]])]),
      ("format", kind "string"), ("allOf", refTo "#/definitions/schemaArray"),
      ("anyOf", refTo "#/definitions/schemaArray"), ("oneOf", refTo "#/definitions/schemaArray"),
      ("not", refTo "#")]),
    ("default", doc [])]

/-- All documents of the draft. -/
def documents : List Value := [whole]

end Switchboard.Schema.Metaschema.Draft6

namespace Switchboard.Schema.Metaschema.Draft7

/-- The schema of schemas of draft 7. -/
def whole : Value :=
  doc [
    ("$schema", .str (numbered 7)), ("$id", .str (numbered 7)),
    ("title", .str "Core schema meta-schema"),
    ("definitions", doc [
      ("schemaArray", doc [("type", .str "array"), ("minItems", .int 1), ("items", refTo "#")]),
      ("nonNegativeInteger", doc [("type", .str "integer"), ("minimum", .int 0)]),
      ("nonNegativeIntegerDefault0", doc [
        ("allOf", .list [refTo "#/definitions/nonNegativeInteger", doc [("default", .int 0)]])]),
      ("simpleTypes", doc [
        ("enum", texts ["array", "boolean", "integer", "null", "number", "object", "string"])]),
      ("stringArray", doc [
        ("type", .str "array"), ("items", kind "string"), ("uniqueItems", .bool true),
        ("default", .list [])])]),
    ("type", texts ["object", "boolean"]),
    ("properties", doc [
      ("$id", doc [("type", .str "string"), ("format", .str "uri-reference")]),
      ("$schema", doc [("type", .str "string"), ("format", .str "uri")]),
      ("$ref", doc [("type", .str "string"), ("format", .str "uri-reference")]),
      ("$comment", kind "string"), ("title", kind "string"), ("description", kind "string"),
      ("default", .bool true),
      ("readOnly", doc [("type", .str "boolean"), ("default", .bool false)]),
      ("examples", doc [("type", .str "array"), ("items", .bool true)]),
      ("multipleOf", doc [("type", .str "number"), ("exclusiveMinimum", .int 0)]),
      ("maximum", kind "number"), ("exclusiveMaximum", kind "number"), ("minimum", kind "number"),
      ("exclusiveMinimum", kind "number"),
      ("maxLength", refTo "#/definitions/nonNegativeInteger"),
      ("minLength", refTo "#/definitions/nonNegativeIntegerDefault0"),
      ("pattern", doc [("type", .str "string"), ("format", .str "regex")]),
      ("additionalItems", refTo "#"),
      ("items", doc [
        ("anyOf", .list [refTo "#", refTo "#/definitions/schemaArray"]), ("default", .bool true)]),
      ("maxItems", refTo "#/definitions/nonNegativeInteger"),
      ("minItems", refTo "#/definitions/nonNegativeIntegerDefault0"),
      ("uniqueItems", doc [("type", .str "boolean"), ("default", .bool false)]),
      ("contains", refTo "#"), ("maxProperties", refTo "#/definitions/nonNegativeInteger"),
      ("minProperties", refTo "#/definitions/nonNegativeIntegerDefault0"),
      ("required", refTo "#/definitions/stringArray"), ("additionalProperties", refTo "#"),
      ("definitions", doc [
        ("type", .str "object"), ("additionalProperties", refTo "#"), ("default", doc [])]),
      ("properties", doc [
        ("type", .str "object"), ("additionalProperties", refTo "#"), ("default", doc [])]),
      ("patternProperties", doc [
        ("type", .str "object"), ("additionalProperties", refTo "#"),
        ("propertyNames", doc [("format", .str "regex")]), ("default", doc [])]),
      ("dependencies", doc [
        ("type", .str "object"),
        ("additionalProperties", doc [
          ("anyOf", .list [refTo "#", refTo "#/definitions/stringArray"])])]),
      ("propertyNames", refTo "#"), ("const", .bool true),
      ("enum", doc [("type", .str "array"), ("items", .bool true)]),
      ("type", doc [
        ("anyOf", .list [
          refTo "#/definitions/simpleTypes",
          doc [
            ("type", .str "array"), ("items", refTo "#/definitions/simpleTypes"),
            ("minItems", .int 1), ("uniqueItems", .bool true)]])]),
      ("format", kind "string"), ("contentMediaType", kind "string"),
      ("contentEncoding", kind "string"), ("if", refTo "#"), ("then", refTo "#"),
      ("else", refTo "#"), ("allOf", refTo "#/definitions/schemaArray"),
      ("anyOf", refTo "#/definitions/schemaArray"), ("oneOf", refTo "#/definitions/schemaArray"),
      ("not", refTo "#")]),
    ("default", .bool true)]

/-- All documents of the draft. -/
def documents : List Value := [whole]

end Switchboard.Schema.Metaschema.Draft7
