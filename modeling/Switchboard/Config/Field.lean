import Switchboard.Config.Fault
import Switchboard.Decimal.Text
import Switchboard.Text.Utf8

/-!
Reading the fields of a settings document.

Fields are lenient about how a number is written: a text of digits, a truth value or a number without
fraction serves as an integer. Texts are taken only from texts.
-/
namespace Switchboard.Config

open Checked

/-- A text; bytes serve when they are UTF-8. -/
def readText : Value → Checked String
  | .str s => .valid s
  | .bytes data =>
    match Text.Utf8.decode? data with
    | some cs => .valid (String.ofList cs)
    | none => fault .notUnicode
  | _ => fault .notText

/-- A text or nothing. -/
def readOptionalText : Value → Checked (Option String)
  | .null => .valid none
  | v => some <$> readText v

/-- The most digits that a text may have that is read as an integer. -/
def maxIntegerDigits : Nat := 4300

/-- The text of an integer without its leading zeros and the low lines between them. The last of only
zeros stays, so does one in front of a point, and a minus sign may follow. -/
def dropZeros : (last : Char) → List Char → Option (List Char)
  | last, [] => some [last]
  | last, c :: rest =>
    if c = '0' || c = '_' then dropZeros c rest
    else if Text.isDigit c || c = '-' then some (c :: rest)
    else if c = '.' then some (last :: c :: rest)
    else none

/-- `dropZeros` for a text that starts with a digit or a minus sign. -/
def dropLeadingZeros : List Char → Option (List Char)
  | [] => none
  | c :: rest =>
    if c = '0' then dropZeros c rest
    else if Text.isDigit c || c = '-' then some (c :: rest)
    else none

/-- The text of an integer without a fraction of zeros. -/
def dropFraction (cs : List Char) : List Char :=
  let whole := cs.takeWhile (· != '.')
  match cs.drop whole.length with
  | _ :: d :: fraction => if (d :: fraction).all (· = '0') then whole else cs
  | _ => cs

/-- A text without its low lines, if these stand alone and inside it; else the text as it is. -/
def dropLines (cs : List Char) : List Char :=
  let groups := Text.splitOn (· = '_') cs
  if groups.all (!·.isEmpty) then groups.flatten else cs

/-- The integer that digits behind an optional minus sign write; only zero starts with a zero. Too
many digits are a fault of their own, whatever follows them. -/
def integerOfDigits (cs : List Char) : Checked Int :=
  let (negative, body) := match cs with
    | '-' :: rest => (true, rest)
    | _ => (false, cs)
  let run := body.takeWhile Text.isDigit
  if run.isEmpty then fault .integerText
  else if run.head? != some '0' && maxIntegerDigits < run.length then fault .integerSize
  else if run.length < body.length || (run.head? = some '0' && run.length != 1) then
    fault .integerText
  else
    let magnitude : Int := Text.digitsValue run
    .valid (if negative then -magnitude else magnitude)

/-- The integer that a text writes: blanks around it, a sign, leading zeros, single low lines between
digits and a fraction of zeros are allowed. -/
def integerOfText (s : String) : Checked Int :=
  let unsigned := match Text.trim Text.isWhiteSpace s.toList with
    | '+' :: '-' :: _ => none
    | '+' :: rest => dropLeadingZeros rest
    | cs => dropLeadingZeros cs
  match unsigned with
  | some cs => integerOfDigits (dropLines (dropFraction cs))
  | none => fault .integerText

/-- The integer that a double is; it must lie strictly between the bounds of 64-bit integers. -/
def integerOfFloat (x : Float) : Checked Int :=
  if !x.isFinite then fault .notFinite
  else
    match Decimal.toInt? x with
    | none => fault .integerFraction
    | some n => if n.natAbs < Nat.pow 2 63 then .valid n else fault .integerSize

/-- An integer. -/
def readInteger : Value → Checked Int
  | .int i => .valid i
  | .bool b => .valid (if b then 1 else 0)
  | .float x => integerOfFloat x
  | .str s => integerOfText s
  | .bytes data =>
    match Text.Utf8.decode? data with
    | some cs => integerOfText (String.ofList cs)
    | none => fault .integerText
  | _ => fault .notInteger

/-- An integer or nothing. -/
def readOptionalInteger : Value → Checked (Option Int)
  | .null => .valid none
  | v => some <$> readInteger v

/-- The double that a text writes with blanks around it, or with low lines inside it. -/
def numberOfText (s : String) : Checked Float :=
  let cs := s.toList
  let grouped := Text.splitOn (· = '_') cs
  let found := (Decimal.ofText? (Text.trim Text.isWhiteSpace cs)).orElse fun _ =>
    if grouped.all (!·.isEmpty) then Decimal.ofText? grouped.flatten else none
  match found with
  | some x => .valid x
  | none => fault .numberText

/-- A number. -/
def readNumber : Value → Checked Float
  | .float x => .valid x
  | .int i => match Decimal.ofInt? i with | some x => .valid x | none => fault .notNumber
  | .bool b => .valid (if b then 1.0 else 0.0)
  | .str s => numberOfText s
  | .bytes data =>
    match Text.Utf8.decode? data with
    | some cs => numberOfText (String.ofList cs)
    | none => fault .numberText
  | _ => fault .notNumber

/-- A number or nothing. -/
def readOptionalNumber : Value → Checked (Option Float)
  | .null => .valid none
  | v => some <$> readNumber v

/-- A list whose items are read one by one; tuples and sets serve as lists. -/
def readList {α : Type} (read : Value → Checked α) : Value → Checked (List α)
  | .list vs | .tuple vs => items read 0 vs
  | .set keys => items read 0 (keys.map Key.toValue)
  | _ => fault .notList

/-- A key as a part of a place: texts and small integers as they are, others as literals. -/
def Part.ofKey : Key → Part
  | .int i => if -(Nat.pow 2 63 : Int) ≤ i && i < (Nat.pow 2 63 : Int) then .position i else .name (toString i)
  | .bool b => .position (if b then 1 else 0)
  | .text s => .name s
  | key => .name key.toValue.literal

/-- A key of a mapping that allows only text keys. -/
def readKey (key : Key) : Checked String :=
  let read := match key with
    | .text s => readText (.str s)
    | .bytes data => readText (.bytes data)
    | _ => fault .notText
  (read.under (.name "[key]")).under (Part.ofKey key)

/-- A mapping with text keys and any values, or nothing. -/
def readMapping : Value → Checked (Option Value)
  | .null => .valid none
  | .object members =>
    (fun pairs => some (.object (Members.ofList pairs))) <$>
      each (fun (k, v) => (fun name => (Key.text name, v)) <$> readKey k) members
  | _ => fault .notMapping

/-- The fields of a record. -/
abbrev Fields := List (Key × Value)

namespace Fields

/-- A field that has to be there. -/
def required {α : Type} (fields : Fields) (name : String) (read : Value → Checked α) : Checked α :=
  match Members.get? (.text name) fields with
  | some v => (read v).under (.name name)
  | none => (fault .missing).under (.name name)

/-- A field with a value that stands for it when it is absent. -/
def optional {α : Type} (fields : Fields) (name : String) (default : α) (read : Value → Checked α) :
    Checked α :=
  match Members.get? (.text name) fields with
  | some v => (read v).under (.name name)
  | none => .valid default

/-- The fault of each field that is not known. -/
def unknown (known : List String) (fields : Fields) : List Fault :=
  fields.filterMap fun (key, _) =>
    match key with
    | .text s => if s ∈ known then none else some ⟨[.name s], .unknownField⟩
    | key => some ⟨[Part.ofKey key], .keyNotText⟩

/-- A record read from its fields, with no field outside `known`. -/
def closed {α : Type} (known : List String) (fields : Fields) (record : Checked α) : Checked α :=
  match record, unknown known fields with
  | .valid a, [] => .valid a
  | record, faults => .invalid (record.faults ++ faults)

end Fields

/-- A record: a mapping with no field outside `known`. -/
def readRecord {α : Type} (known : List String) (read : Fields → Checked α) : Value → Checked α
  | .object fields => Fields.closed known fields (read fields)
  | _ => fault .notRecord

end Switchboard.Config
