import Switchboard.Json.Reader

/-!
JSON inside other text: the first object in a reply that wraps it in prose or code fences.

`firstObject` takes the text from the first opening brace to the brace that closes it, passing over
double-quoted strings; `parseReply` reads a whole text as JSON and falls back to its first object.
-/
namespace Switchboard.Json

/-- Why no object was found. -/
inductive ExtractError where
  | absent
  | unbalanced
  deriving DecidableEq

/-- The message for it. -/
def ExtractError.message : ExtractError → String
  | .absent => "No JSON object found in output."
  | .unbalanced => "Unbalanced JSON object in output."

/-- Where a scan stands: outside strings, inside one, or behind a backslash inside one. -/
inductive Scan where
  | outside
  | inside
  | escaped
  deriving DecidableEq

/-- The text up to the brace that closes the last of `depth` open ones. -/
def closing (scan : Scan) (depth : Nat) : List Char → Option (List Char)
  | [] => none
  | c :: rest =>
    match scan with
    | .escaped => (closing .inside depth rest).map (c :: ·)
    | .inside =>
      let next := if c = '\\' then .escaped else if c = '"' then .outside else .inside
      (closing next depth rest).map (c :: ·)
    | .outside =>
      if c = '"' then (closing .inside depth rest).map (c :: ·)
      else if c = '{' then (closing .outside (depth + 1) rest).map (c :: ·)
      else if c = '}' then
        if depth ≤ 1 then some [c] else (closing .outside (depth - 1) rest).map (c :: ·)
      else (closing .outside depth rest).map (c :: ·)

/-- The text of the first object, from its opening brace to the matching closing one. -/
def firstObject (cs : List Char) : Except ExtractError (List Char) :=
  match cs.dropWhile (· != '{') with
  | [] => .error .absent
  | block =>
    match closing .outside 0 block with
    | some object => .ok object
    | none => .error .unbalanced

/-- Why a reply could not be read; a fault is located in the text that was read last. -/
inductive ReplyError where
  | extract (e : ExtractError)
  | read (text : List Char) (e : ReadError)

/-- The message for it. -/
def ReplyError.message : ReplyError → String
  | .extract e => e.message
  | .read text e => e.describe text

/-- The value of a reply: of the whole text when it is JSON, otherwise of its first object. -/
def parseReply (cs : List Char) : Except ReplyError Value :=
  match parse cs with
  | .ok v => .ok v
  | .error e =>
    if e.isFault then
      match firstObject cs with
      | .error e => .error (.extract e)
      | .ok object =>
        match parse object with
        | .ok v => .ok v
        | .error e => .error (.read object e)
    else .error (.read cs e)

/-- The object that a tool's output stands for: its JSON value, put under `result` unless it is an
object, or else the text itself under `text`. -/
def parseOutput (s : String) : Value :=
  match parseReply s.toList with
  | .ok (.object members) => .object members
  | .ok v => .ofFields [("result", v)]
  | .error _ => .ofFields [("text", .str s)]

end Switchboard.Json
