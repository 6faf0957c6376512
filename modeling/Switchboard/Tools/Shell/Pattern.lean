import Switchboard.Tools.Octets

/-!
Patterns of a shell: `*` stands for any text, `?` for any byte, and brackets for one of a set. Quoted
characters stand for themselves.
-/
namespace Switchboard.Tools.Shell.Pattern

/-- A character of a pattern, with whether it is quoted. -/
abbrev Mark := Char × Bool

/-- A part of a set. -/
inductive Member where
  | range (low high : Char)
  | named (name : String)

/-- An item of a pattern. -/
inductive Item where
  | anything
  | one
  | char (c : Char)
  | set (negated : Bool) (members : List Member)

/-- Whether a byte belongs to a named class. -/
def isOfClass (c : Char) : String → Bool
  | "alpha" => Text.isLetter c
  | "digit" => Text.isDigit c
  | "alnum" => Text.isLetter c || Text.isDigit c
  | "upper" => 'A' ≤ c && c ≤ 'Z'
  | "lower" => 'a' ≤ c && c ≤ 'z'
  | "space" => Octets.isSpace c
  | "blank" => c = ' ' || c = '\t'
  | "xdigit" => (Text.hexValue? c).isSome
  | "cntrl" => c < ' ' || c = '\x7f'
  | "print" => ' ' ≤ c && c < '\x7f'
  | "graph" => ' ' < c && c < '\x7f'
  | "punct" => ' ' < c && c < '\x7f' && !(Text.isLetter c || Text.isDigit c)
  | _ => false

/-- Whether a byte belongs to a part of a set. -/
def Member.holds (c : Char) : Member → Bool
  | .range low high => low ≤ c && c ≤ high
  | .named name => isOfClass c name

/-- The members of a set and the number of characters that they take, up to the bracket that closes
it. A bracket in front stands for itself. -/
def members? : (fuel : Nat) → (isFirst : Bool) → List Mark → Option (List Member × Nat)
  | 0, _, _ | _, _, [] => none
  | fuel + 1, isFirst, (c, quoted) :: rest =>
    let next (m : Member) (count : Nat) (rest : List Mark) : Option (List Member × Nat) :=
      (members? fuel false rest).map fun (ms, n) => (m :: ms, n + count)
    if c = ']' && !quoted && !isFirst then some ([], 1)
    else
      let name := ((rest.drop 1).takeWhile fun m => m.1 != ':').map (·.1)
      let closes := ((rest.drop (name.length + 1)).take 2).map (·.1) = [':', ']']
      if c = '[' && !quoted && (rest.head?.map (·.1)) = some ':' && closes then
        next (.named (String.ofList name)) (name.length + 4) (rest.drop (name.length + 3))
      else
        match rest with
        | ('-', false) :: (d, q) :: more =>
          if d = ']' && !q then next (.range c c) 1 rest else next (.range c d) 3 more
        | _ => next (.range c c) 1 rest

/-- The items of a pattern; the first `passed` characters belong to the item before. A bracket that
is not closed stands for itself. -/
def items : (passed : Nat) → List Mark → List Item
  | _, [] => []
  | passed + 1, _ :: rest => items passed rest
  | 0, (c, true) :: rest => .char c :: items 0 rest
  | 0, ('*', false) :: rest => .anything :: items 0 rest
  | 0, ('?', false) :: rest => .one :: items 0 rest
  | 0, ('[', false) :: rest =>
    let negated := match rest with
      | (c, false) :: _ => c = '!' || c = '^'
      | _ => false
    let lead := if negated then 1 else 0
    match members? (rest.length + 1) true (rest.drop lead) with
    | some (ms, count) => .set negated ms :: items (count + lead) rest
    | none => .char '[' :: items 0 rest
  | 0, (c, false) :: rest => .char c :: items 0 rest

/-- The ends of a text, from the whole to nothing. -/
def ends : Octets → List Octets
  | [] => [[]]
  | c :: rest => (c :: rest) :: ends rest

/-- Whether a pattern fits a whole text. -/
def fits : List Item → Octets → Bool
  | [], cs => cs.isEmpty
  | .anything :: rest, cs => (ends cs).any (fits rest)
  | _ :: _, [] => false
  | .one :: rest, _ :: cs => fits rest cs
  | .char d :: rest, c :: cs => c = d && fits rest cs
  | .set negated ms :: rest, c :: cs => ms.any (·.holds c) != negated && fits rest cs

/-- Whether a pattern fits a text. -/
def isMatch (pattern : List Mark) (text : Octets) : Bool := fits (items 0 pattern) text

/-- A text without a part that a pattern fits, at its end or its start; the longest or the shortest
such part. -/
def trim (atEnd longest : Bool) (pattern : List Mark) (text : Octets) : Octets :=
  let marks := items 0 pattern
  let cuts := List.range (text.length + 1)
  let count := (if longest then cuts.reverse else cuts).find? fun n =>
    fits marks (if atEnd then text.drop (text.length - n) else text.take n)
  match count with
  | some n => if atEnd then text.take (text.length - n) else text.drop n
  | none => text

end Switchboard.Tools.Shell.Pattern
