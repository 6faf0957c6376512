import Switchboard.Config.Endpoint
import Switchboard.Files.Path

/-!
The settings of a server: where it listens, what its prompts use by default, and its endpoints. No two
endpoints may share a name or a route.
-/
namespace Switchboard.Config

open Checked

/-- The settings of a server. Files that endpoints refer to lie below `directory`. -/
structure Server where
  host : String
  port : Int
  logLevel : String
  defaultModel : Option String
  defaultBaseUrl : Option String
  defaultApiKey : Option String
  endpoints : List Endpoint
  directory : Files.Path

namespace Server

/-- The rule that the first endpoint breaks, in the order of the list, that repeats the name or the
route of an earlier one; the name is compared first. -/
def ambiguity (names : List String) (routes : List (Method × String)) : List Endpoint → Option Rule
  | [] => none
  | e :: rest =>
    if e.name ∈ names then some (.oneEndpointOfName e.name)
    else if (e.method, e.path) ∈ routes then some (.oneEndpointOfRoute e.method.word e.path e.name)
    else ambiguity (e.name :: names) ((e.method, e.path) :: routes) rest

/-- Reads a path. -/
def readPath : Value → Checked Files.Path
  | .str s => .valid (Files.Path.read s)
  | _ => fault .notPath

/-- Reads the settings of a server; `directory` is the one used when they name none. -/
def read (directory : Files.Path) (v : Value) : Checked Server :=
  (readRecord ["host", "port", "log_level", "default_model", "default_base_url", "default_api_key",
      "endpoints", "base_dir"] (fun fields =>
    Server.mk <$> fields.optional "host" "127.0.0.1" readText
      <*> fields.optional "port" 3000 readInteger
      <*> fields.optional "log_level" "info" readText
      <*> fields.optional "default_model" none readOptionalText
      <*> fields.optional "default_base_url" none readOptionalText
      <*> fields.optional "default_api_key" none readOptionalText
      <*> fields.optional "endpoints" [] (readList Endpoint.read)
      <*> fields.optional "base_dir" directory readPath) v).andThen fun s =>
  require (ambiguity [] [] s.endpoints) s

/-- The settings as data. -/
def toValue (s : Server) : Value :=
  .ofFields [("host", .str s.host), ("port", .int s.port), ("log_level", .str s.logLevel),
    ("default_model", optionalText s.defaultModel),
    ("default_base_url", optionalText s.defaultBaseUrl),
    ("default_api_key", optionalText s.defaultApiKey),
    ("endpoints", .list (s.endpoints.map Endpoint.toValue)), ("base_dir", .str s.directory.text)]

end Server

end Switchboard.Config
