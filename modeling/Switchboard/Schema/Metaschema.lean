import Switchboard.Schema.Resource
import Switchboard.Schema.Metaschema.Yearly
import Switchboard.Schema.Metaschema.Numbered

/-!
The schemas of schemas of all drafts, which every schema can refer to.
-/
namespace Switchboard.Schema.Metaschema

/-- The documents of a draft. -/
def documentsOf : Dialect → List Value
  | .draft3 => Draft3.documents
  | .draft4 => Draft4.documents
  | .draft6 => Draft6.documents
  | .draft7 => Draft7.documents
  | .draft2019 => Draft2019.documents
  | .draft2020 => Draft2020.documents

/-- All documents under their identifiers. -/
def documents : List (String × Resource) :=
  Dialect.all.flatMap fun d => (documentsOf d).filterMap fun contents =>
    match d.identifierOf contents with
    | .ok (some identifier) => some (identifier, ⟨d, contents⟩)
    | _ => none

/-- Where the identifiers and anchors of the documents lead. -/
def index : Index :=
  match Index.ofDocuments documents .empty with
  | .ok index => index
  | .error _ => .empty

end Switchboard.Schema.Metaschema
