import Switchboard.Yaml.Scalar

/-!
Why a text is not the YAML of one value.
-/
namespace Switchboard.Yaml

/-- What is wrong with the form of a document. -/
inductive Fault where
  | unprintable
  | stray
  | missingColon
  | tab
  | misplacedEntry
  | misplacedKey
  | misplacedValue
  | directive
  | anchorName
  | tagForm
  | blockHeader
  | unclosedQuote
  | separatorInQuote
  | escape
  | unexpected
  | undefinedHandle
  | undefinedAlias
  | repeatedAnchor
  | severalDocuments
  | merge
  | keyKind
  | unknownTag
  | contentKind
  | base64
  | enclosedText
  deriving DecidableEq

/-- Why a text has no value: a fault of its form, or a scalar that its form promises but that does
not exist. -/
inductive ReadError where
  | fault (f : Fault)
  | scalar (e : ScalarError)
  deriving DecidableEq

/-- The message for it. -/
def ReadError.message : ReadError → String
  | .fault _ => "malformed YAML"
  | .scalar e => e.message

/-- A value, or why there is none. -/
abbrev Result := Except ReadError

/-- A fault of the form. -/
def faulty {α : Type} (f : Fault) : Result α := .error (.fault f)

end Switchboard.Yaml
