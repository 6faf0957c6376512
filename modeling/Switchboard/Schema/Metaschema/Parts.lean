import Switchboard.Value

/-!
The turns of phrase of which the schemas of schemas are made.
-/
namespace Switchboard.Schema.Metaschema

/-- Where the schemas of schemas are at home. -/
def home : String := "json-schema.org"

/-- The identifier of the draft with a number. -/
def numbered (number : Nat) : String :=
  "http://" ++ home ++ "/draft-0" ++ toString number ++ "/schema#"

/-- The identifier of a document of the draft of a year and month. -/
def yearly (month path : String) : String := "https://" ++ home ++ "/draft/" ++ month ++ "/" ++ path

/-- A mapping with these members. -/
def doc (members : List (String × Value)) : Value := .ofFields members

/-- A list of texts. -/
def texts (ss : List String) : Value := .list (ss.map .str)

/-- Refers to another schema. -/
def refTo (reference : String) : Value := doc [("$ref", .str reference)]

/-- Allows the values of a type. -/
def kind (type : String) : Value := doc [("type", .str type)]

/-- Allows schemas, as the schema that was started from tells them. -/
def anySchema : Value := doc [("$dynamicRef", .str "#meta")]

/-- Allows schemas, as the outermost schema of schemas tells them. -/
def recursively : Value := doc [("$recursiveRef", .str "#")]

end Switchboard.Schema.Metaschema
