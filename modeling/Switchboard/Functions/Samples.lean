import Switchboard.Functions.Access
import Switchboard.Functions.Signature
import Switchboard.Json.Writer

/-!
Small functions to try a server with: they give the payload back, show their arguments, compute with
one member, or fail.
-/
namespace Switchboard.Functions.Samples

/-- The parameter for the payload. -/
def payloadParameter : Parameter := ⟨"payload", .position, false⟩

/-- A function of the payload alone. -/
def ofPayload (body : History → Value → Except Failure Value) : Function :=
  ⟨some [payloadParameter], fun h args => body h (args.headD .null)⟩

/-- The payload itself. -/
def echo : Function := ofPayload fun _ payload => .ok payload

/-- The payload under a name. -/
def under (name : String) : Function := ofPayload fun _ payload => .ok (.ofFields [(name, payload)])

/-- The payload, and whether there was a request. -/
def shown (payload request : Value) : Value :=
  let hasRequest := match request with
    | .null => false
    | _ => true
  .ofFields [("payload", payload), ("has_request", .bool hasRequest)]

/-- The payload, and whether there was a request, from a function with two parameters. -/
def withRequest (hasDefault : Bool) : Function where
  parameters := some [payloadParameter, ⟨"request", .position, hasDefault⟩]
  body _ args := .ok (shown (args.headD .null) (args.tail.headD .null))

/-- The same from a function that takes the request by name only, and so never gets it. -/
def withNamedRequest : Function where
  parameters := some [payloadParameter, ⟨"request", .named, true⟩]
  body _ args := .ok (shown (args.headD .null) .null)

/-- The number of arguments, and the first of them. -/
def countArguments : Function where
  parameters := some [⟨"args", .rest, false⟩]
  body _ args := .ok (.ofFields [("count", .int args.length), ("first", args.headD .null)])

/-- The payload, and whether the second argument is the default. -/
def withDefault : Function where
  parameters := some [payloadParameter, ⟨"extra", .position, true⟩]
  body _ args :=
    let isDefault := match args.tail with
      | [] | .str "dflt" :: _ => true
      | _ => false
    .ok (.ofFields [("payload", args.headD .null), ("extra_is_default", .bool isDefault)])

/-- A function of the integer under `value`. -/
def ofInteger (f : Int → Int) : Function := ofPayload fun h payload => do
  match ← member h payload "value" with
  | .int i => return .ofFields [("result", .int (f i))]
  | _ => throw (.raised .argument "value must be an integer")

/-- The member `field`. -/
def pick : Function := ofPayload fun h payload => member h payload "field"

/-- A function that fails. -/
def failing (trouble : Trouble) (message : String) : Function :=
  ofPayload fun _ _ => .error (.raised trouble message)

/-- A function that gives the same whatever the payload. -/
def always (v : Value) : Function := ofPayload fun _ _ => .ok v

/-- The JSON text of the payload. -/
def jsonText : Function := ofPayload fun h payload =>
  match Json.text (h.reveal payload) with
  | .ok s => .ok (.str s)
  | .error e => .error (.query (.write e))

/-- The number of items, members, characters or bytes of the payload. -/
def size : Function := ofPayload fun h payload =>
  match h.peek payload with
  | .list items | .tuple items => .ok (.int items.length)
  | .object members => .ok (.int members.length)
  | .set keys => .ok (.int keys.length)
  | .str s => .ok (.int s.length)
  | .bytes data => .ok (.int data.length)
  | v => .error (.raised .kind ("object of type '" ++ v.typeName ++ "' has no len()"))

/-- What a value gives one after the other, if it gives anything. -/
def partsOf? : Value → Option (List Value)
  | .list items | .tuple items => some items
  | .str s => some (s.toList.map fun c => .str (String.singleton c))
  | .object members => some (members.map fun (k, _) => k.toValue)
  | .set keys => some (keys.map Key.toValue)
  | .bytes data => some (data.map fun b => .int b.toNat)
  | _ => none

/-- A mapping from items that are pairs; `index` items have gone before. -/
def pairsToMembers (h : History) (index : Nat) (members : List (Key × Value)) :
    List Value → Except Failure Value
  | [] => .ok (.object members)
  | item :: rest =>
    let element := "dictionary update sequence element #" ++ toString index
    match partsOf? (h.peek item) with
    | none => .error (.raised .kind ("cannot convert " ++ element ++ " to a sequence"))
    | some [k, v] =>
      match Key.ofValue? k with
      | some key => pairsToMembers h (index + 1) (Members.insert key v members) rest
      | none => .error (.raised .kind ("unhashable type: '" ++ k.kindName ++ "'"))
    | some parts =>
      .error (.raised .argument
        (element ++ " has length " ++ toString parts.length ++ "; 2 is required"))

/-- The payload as a mapping: a mapping itself, or things that are pairs. -/
def mapping : Function where
  parameters := none
  body h args :=
    match h.peek (args.headD .null) with
    | .object members => .ok (.object members)
    | v =>
      match partsOf? v with
      | some items => pairsToMembers h 0 [] items
      | none => .error (.raised .kind ("'" ++ v.typeName ++ "' object is not iterable"))

end Switchboard.Functions.Samples
