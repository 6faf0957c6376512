import Switchboard.Failure
import Switchboard.Template.Context

/-!
Looking into payloads, as functions do, with the complaint that a payload of the wrong kind causes.
-/
namespace Switchboard.Functions

/-- The complaint that there is nothing under a key. -/
def missingKey (name : String) : Failure := .raised .missingKey (Text.quoted name)

/-- The member of a payload under a name. -/
def member (h : History) (payload : Value) (name : String) : Except Failure Value :=
  match h.peek payload with
  | .object members =>
    match Members.get? (.text name) members with
    | some v => .ok v
    | none => .error (missingKey name)
  | .list _ => .error (.raised .kind "list indices must be integers or slices, not str")
  | .tuple _ => .error (.raised .kind "tuple indices must be integers or slices, not str")
  | .str _ => .error (.raised .kind "string indices must be integers, not 'str'")
  | .bytes _ => .error (.raised .kind "byte indices must be integers or slices, not str")
  | v => .error (.raised .kind ("'" ++ v.typeName ++ "' object is not subscriptable"))

end Switchboard.Functions
