import Switchboard.Regex.Reader

/-!
Where regular expressions match.

`run` matches a pattern at a position and goes on with what is to match behind it; the first way that
leads to a match of everything is taken, so alternatives are tried from left to right and repetitions
in the order of their greed.
-/
namespace Switchboard.Regex

/-- A position in a text, with what the groups have taken so far: the characters before it, nearest
first, and those behind it. -/
structure Position where
  before : List Char
  behind : List Char
  groups : List (Nat × List Char)

namespace Position

/-- The position after the next character, if that satisfies `p`. -/
def take (p : Char → Bool) (s : Position) : Option Position :=
  match s.behind with
  | c :: rest => if p c then some ⟨c :: s.before, rest, s.groups⟩ else none
  | [] => none

/-- The position `n` characters back. -/
def back (s : Position) : (n : Nat) → Option Position
  | 0 => some s
  | n + 1 =>
    match s.before with
    | c :: earlier => back ⟨earlier, c :: s.behind, s.groups⟩ n
    | [] => none
  termination_by n => n

/-- The position behind given characters, if they come next. -/
def passText (same : Char → Char → Bool) (s : Position) : List Char → Option Position
  | [] => some s
  | c :: rest => (s.take (same c)).bind fun s => passText same s rest

/-- The characters taken from an earlier position to this one. -/
def since (start s : Position) : List Char :=
  (s.before.take (s.before.length - start.before.length)).reverse

end Position

/-- Whether a set holds a character. -/
def setHolds (negated : Bool) (elements : List Element) (casing : Casing) (c : Char) : Bool :=
  (elements.any fun e => e.holds casing c) != negated

/-- Whether an anchor holds at a position. In an empty text there is no boundary and no place without
one. -/
def Anchor.holds (s : Position) : Anchor → Bool
  | .textStart => s.before.isEmpty
  | .lineStart => s.before.isEmpty || s.before.head? = some '\n'
  | .textEnd => s.behind.isEmpty
  | .lastLineEnd => s.behind.isEmpty || s.behind = ['\n']
  | .lineEnd => s.behind.isEmpty || s.behind.head? = some '\n'
  | .boundary negated ascii =>
    let isWordChar : Option Char → Bool
      | some c => CharClass.word.holds ascii c
      | none => false
    !(s.before.isEmpty && s.behind.isEmpty)
      && (isWordChar s.before.head? != isWordChar s.behind.head?) != negated

/-- Matches a pattern, then what `next` asks for. `fuel` bounds how often things are repeated. -/
def run (fuel : Nat) (p : Pattern) (s : Position) (next : Position → Option Position) :
    Option Position :=
  match p with
  | .empty => next s
  | .never => none
  | .any lineBreaks => (s.take fun c => lineBreaks || c != '\n').bind next
  | .set negated elements casing => (s.take (setHolds negated elements casing)).bind next
  | .anchor a => if a.holds s then next s else none
  | .seq p q => run fuel p s fun s => run fuel q s next
  | .alt p q => (run fuel p s next).orElse fun _ => run fuel q s next
  | .group index p =>
    run fuel p s fun e => next { e with groups := (index, s.since e) :: e.groups }
  | .plain p => run fuel p s next
  | .same index casing =>
    match s.groups.lookup index with
    | some cs => (s.passText (fun c d => casing.small c = casing.small d) cs).bind next
    | none => none
  | .ahead negated p =>
    match run fuel p s some with
    | some e => if negated then none else next { s with groups := e.groups }
    | none => if negated then next s else none
  | .behind negated width p =>
    match (s.back width).bind fun b => run fuel p b some with
    | some e => if negated then none else next { s with groups := e.groups }
    | none => if negated then next s else none
  | .atomic p => (run fuel p s some).bind next
  | .ifGroup index yes no =>
    if (s.groups.lookup index).isSome then run fuel yes s next else run fuel no s next
  | .repeated least most greed p =>
    match fuel with
    | 0 => none
    | fuel + 1 =>
      let round (next : Position → Option Position) : Option Position :=
        match greed with
        | .possessive => (run (fuel + 1) p s some).bind next
        | _ => run (fuel + 1) p s next
      -- a round that takes nothing stands for all that are demanded; one beyond these is the last
      let further (e : Position) : Option Position :=
        let isEmpty := e.before.length = s.before.length
        if least = 0 && isEmpty then next e
        else run fuel (.repeated (if isEmpty then 0 else least - 1) (most.map (· - 1)) greed p) e next
      if least > 0 then round further
      else if most = some 0 then next s
      else
        match greed with
        | .greedy => (round further).orElse fun _ => next s
        | .lazy => (next s).orElse fun _ => round further
        | .possessive =>
          match run (fuel + 1) p s some with
          | some e => further e
          | none => next s
termination_by (fuel, sizeOf p)

/-- Whether a pattern matches at a position or behind it. -/
def searchFrom (fuel : Nat) (p : Pattern) (before : List Char) : List Char → Bool
  | [] => (run fuel p ⟨before, [], []⟩ some).isSome
  | c :: rest =>
    (run fuel p ⟨before, c :: rest, []⟩ some).isSome || searchFrom fuel p (c :: before) rest

/-- Whether a pattern matches somewhere in a text. -/
def search (p : Pattern) (s : String) : Bool :=
  searchFrom ((s.length + 2) * (p.cost + 2)) p [] s.toList

end Switchboard.Regex
