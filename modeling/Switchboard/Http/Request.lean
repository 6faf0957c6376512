import Switchboard.Config.Endpoint
import Switchboard.Json.Reader
import Switchboard.Text.Percent
import Switchboard.Text.Wide

/-!
Requests and the payload that an endpoint reads from them: the parameters of the query for `GET`,
otherwise the JSON of the body, in whichever Unicode encoding it comes. No body is an empty mapping.
-/
namespace Switchboard.Http

/-- A request. Its path is decoded, its query is not; `host` is the name by which it addresses the
server. -/
structure Request where
  host : String
  method : String
  path : String
  query : String
  body : List UInt8

/-- A request on one line: the method, the path with a query behind a question mark, and the body,
with blanks between them. -/
def Request.ofLine (host line : String) : Request :=
  let cs := line.toList
  let method := cs.takeWhile (· != ' ')
  let rest := cs.drop (method.length + 1)
  let target := rest.takeWhile (· != ' ')
  let path := target.takeWhile (· != '?')
  { host
    method := String.ofList method
    path := String.ofList (Text.percentDecoded path)
    query := String.ofList (target.drop (path.length + 1))
    body := Text.Utf8.encode (String.ofList (rest.drop (target.length + 1))) }

/-! ### Queries -/

/-- A name or a value of a query: a plus sign is a blank, and percent escapes are bytes. -/
def queryText (cs : List Char) : String :=
  String.ofList (Text.percentDecoded (cs.map fun c => if c = '+' then ' ' else c))

/-- A parameter: what stands in front of the first equals sign and behind it. -/
def parameter (cs : List Char) : String × String :=
  let name := cs.takeWhile (· != '=')
  (queryText name, queryText (cs.drop (name.length + 1)))

/-- The parameters of a query; empty ones between separators do not count. Bytes that are not ASCII
are characters of their own. -/
def parameters (query : String) : List (String × String) :=
  let cs := (Text.Utf8.encode query).map fun b => Char.ofNat b.toNat
  ((Text.splitOn (· = '&') cs).filter (!·.isEmpty)).map parameter

/-- Parameters as data: of parameters with one name the last counts. -/
def parametersValue (ps : List (String × String)) : Value :=
  .object (Members.ofList (ps.map fun (name, v) => (.text name, .str v)))

/-! ### Bodies -/

/-- How the characters of a body are written. -/
inductive Encoding where
  | utf8
  | utf16 (highFirst : Bool)
  | utf32 (highFirst : Bool)
  deriving DecidableEq

/-- The byte order marks, longer ones first. -/
def marks : List (List UInt8 × Encoding) :=
  [([0x00, 0x00, 0xFE, 0xFF], .utf32 true), ([0xFF, 0xFE, 0x00, 0x00], .utf32 false),
    ([0xFE, 0xFF], .utf16 true), ([0xFF, 0xFE], .utf16 false), ([0xEF, 0xBB, 0xBF], .utf8)]

/-- The encoding that the zero bytes at the start of a JSON text show. -/
def encodingOfZeros : List UInt8 → Encoding
  | 0 :: 0 :: _ :: _ :: _ => .utf32 true
  | 0 :: _ :: _ :: _ :: _ => .utf16 true
  | _ :: 0 :: 0 :: 0 :: _ => .utf32 false
  | _ :: 0 :: _ :: _ :: _ => .utf16 false
  | [0, _] => .utf16 true
  | [_, 0] => .utf16 false
  | _ => .utf8

/-- The encoding of a body, and its bytes without the mark. -/
def encoding (body : List UInt8) : Encoding × List UInt8 :=
  match marks.find? fun (mark, _) => mark.isPrefixOf body with
  | some (mark, encoding) => (encoding, body.drop mark.length)
  | none => (encodingOfZeros body, body)

/-- The text of a body. -/
def bodyText? (body : List UInt8) : Option (List Char) :=
  match encoding body with
  | (.utf8, bytes) => Text.Utf8.decode? bytes
  | (.utf16 highFirst, bytes) => Text.Wide.decode16? highFirst bytes
  | (.utf32 highFirst, bytes) => Text.Wide.decode32? highFirst bytes

/-- The value of a body, if it is JSON. -/
def bodyValue? (body : List UInt8) : Option Value :=
  if body.isEmpty then some (.object [])
  else (bodyText? body).bind fun cs => (Json.parse cs).toOption

/-- The payload of a request to an endpoint, if it can be read. -/
def payload? (method : Config.Method) (r : Request) : Option Value :=
  match method with
  | .get => some (parametersValue (parameters r.query))
  | _ => bodyValue? r.body

end Switchboard.Http
