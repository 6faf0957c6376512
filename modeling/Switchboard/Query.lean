import Switchboard.Json.Writer

/-!
Queries with placeholders: `Meetings on {{day}}`.

A query is cut into literal characters and placeholders once, from left to right (`pieces`), and each
placeholder is then replaced by the value under its key (`render`); values are not searched for
placeholders again.
-/
namespace Switchboard.Query

/-- A piece of a query. -/
inductive Piece where
  | literal (c : Char)
  | placeholder (key : String)
  deriving DecidableEq

/-- The characters of which keys are made. -/
def isKeyChar (c : Char) : Bool :=
  Text.isLetter c || Text.isDigit c || c = '_' || c = '.' || c = '-'

/-- The key of the placeholder that a text starts with, and what follows the placeholder: double
braces around a key, with blanks allowed on both sides of the key. -/
def placeholder? (cs : List Char) : Option (List Char × List Char) := do
  let inner ← Text.dropPrefix? ['{', '{'] cs
  let body := inner.dropWhile Text.isBlank
  let key := body.takeWhile isKeyChar
  let rest ← Text.dropPrefix? ['}', '}'] ((body.drop key.length).dropWhile Text.isBlank)
  if key.isEmpty then none else some (key, rest)

/-- The pieces of a query; the first `passed` characters belong to a placeholder already cut out. -/
def piecesFrom : (passed : Nat) → List Char → List Piece
  | _, [] => []
  | passed + 1, _ :: rest => piecesFrom passed rest
  | 0, c :: rest =>
    match placeholder? (c :: rest) with
    | some (key, after) =>
      .placeholder (String.ofList key) :: piecesFrom (rest.length - after.length) rest
    | none => .literal c :: piecesFrom 0 rest

/-- The pieces of a query. -/
def pieces (query : String) : List Piece := piecesFrom 0 query.toList

/-- Why a query could not be rendered. -/
inductive RenderError where
  | missing (key : String)
  | write (e : Json.WriteError)
  deriving DecidableEq

/-- The message for it. -/
def RenderError.message : RenderError → String
  | .missing key => "Missing value for query placeholder \x7b\x7b" ++ key ++ "\x7d\x7d."
  | .write e => e.message

/-- The text that stands for a value: a text itself, otherwise its JSON text. -/
def valueText : Value → Except RenderError String
  | .str s => .ok s
  | v => (Json.text v).mapError .write

/-- The text of a piece, with the values of the members of `payload`. -/
def pieceText (payload : Value) : Piece → Except RenderError String
  | .literal c => .ok (String.singleton c)
  | .placeholder key =>
    match payload.get? key with
    | some v => valueText v
    | none => .error (.missing key)

/-- A query with its placeholders replaced. -/
def render (query : String) (payload : Value) : Except RenderError String :=
  ((pieces query).mapM (pieceText payload)).map String.join

end Switchboard.Query
