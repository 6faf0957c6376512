import Switchboard.Json.Writer
import Switchboard.Schema
import Switchboard.Text.Percent

/-!
Responses: JSON, plain texts and redirections.
-/
namespace Switchboard.Http

/-- A response; `allow` lists the methods that a path knows when the request had none of them. -/
structure Response where
  status : Nat
  contentType : Option String
  body : String
  location : Option String
  allow : Option (List String)

/-- What keeps a request from being answered at all. -/
inductive Escape where
  /-- a value could not be checked against a schema -/
  | checking (why : Schema.Interruption)
  /-- the output has no JSON text -/
  | writing (e : Json.WriteError)
  /-- a number in the path has too many digits -/
  | digits

namespace Response

/-- A response in JSON. -/
def json (status : Nat) (v : Value) : Except Escape Response :=
  match Json.compactText v with
  | .ok body => .ok ⟨status, some "application/json", body, none, none⟩
  | .error e => .error (.writing e)

/-- A plain text. -/
def plain (status : Nat) (text : String) : Response :=
  ⟨status, some "text/plain; charset=utf-8", text, none, none⟩

/-- The path has no route. -/
def notFound : Response := plain 404 "Not Found"

/-- The path has a route, but not for the method. -/
def methodNotAllowed (allow : List String) : Response :=
  { plain 405 "Method Not Allowed" with allow := some allow }

/-- The answer to a request that could not be answered. -/
def serverError : Response := plain 500 "Internal Server Error"

/-- Whether a character may stand in a location as it is. -/
def isSafe (c : Char) : Bool :=
  Text.isLetter c || Text.isDigit c || "_.-~:/%#?=@[]!$&'()*+,;".toList.contains c

/-- The path is known by a slightly different name. -/
def redirect (location : String) : Response :=
  ⟨307, none, "", some (String.ofList (Text.percentEncoded isSafe location.toList)), none⟩

end Response

end Switchboard.Http
