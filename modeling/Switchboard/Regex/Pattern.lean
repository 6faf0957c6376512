import Switchboard.Text.Case
import Switchboard.Text.WordClass

/-!
Regular expressions as trees, and the number of characters that an expression can match.
-/
namespace Switchboard.Regex

/-- The three named classes of characters. -/
inductive CharClass where
  | digit
  | space
  | word
  deriving DecidableEq

/-- Whether a character is of a class; an ASCII class holds ASCII characters only. -/
def CharClass.holds (ascii : Bool) (c : Char) : CharClass → Bool
  | .digit => if ascii then Text.isDigit c else Text.isDecimal c
  | .space => Text.isBlank c && (!ascii || (c.toNat < 0x80 && !(0x1C ≤ c.toNat && c.toNat ≤ 0x1F)))
  | .word =>
    if ascii then Text.isLetter c || Text.isDigit c || c = '_' else Text.isWord c || c = '_'

/-- Which characters count as the same letter: none but itself, the two cases of a letter of ASCII, or
all forms of a letter. -/
inductive Casing where
  | exact
  | ascii
  | full
  deriving DecidableEq

namespace Casing

/-- The small form of a character. -/
def small : Casing → Char → Char
  | .exact, c => c
  | .ascii, c => c.toLower
  | .full, c => Text.lower c

/-- The characters that a character counts as, itself included. -/
def counterparts : Casing → Char → List Char
  | .exact, c => [c]
  | .ascii, c => [c.toLower, c.toUpper]
  | .full, c => (Text.variants (Text.lower c)).flatMap fun d => d :: Text.capitalsOf d

/-- Whether a character counts as one with a number from `low` to `high`. -/
def isWithin (casing : Casing) (low high : Nat) (c : Char) : Bool :=
  (casing.counterparts c).any fun d => low ≤ d.toNat && d.toNat ≤ high

end Casing

/-- An element of a set of characters, which are given by their numbers. -/
inductive Element where
  | range (low high : Nat)
  | named (cls : CharClass) (negated ascii : Bool)
  deriving DecidableEq

/-- Whether an element holds a character. -/
def Element.holds (casing : Casing) (c : Char) : Element → Bool
  | .range low high => casing.isWithin low high c
  | .named cls negated ascii => cls.holds ascii (casing.small c) != negated

/-- How a repetition goes about it: as often as possible, as rarely as possible, or as often as
possible without giving anything back. -/
inductive Greed where
  | greedy
  | lazy
  | possessive
  deriving DecidableEq

/-- A position that matches without taking characters. -/
inductive Anchor where
  | textStart
  | lineStart
  | textEnd
  | lastLineEnd
  | lineEnd
  | boundary (negated ascii : Bool)
  deriving DecidableEq

/-- A regular expression. -/
inductive Pattern where
  | empty
  | never
  | any (lineBreaks : Bool)
  | set (negated : Bool) (elements : List Element) (casing : Casing)
  | anchor (a : Anchor)
  | seq (p q : Pattern)
  | alt (p q : Pattern)
  | group (index : Nat) (p : Pattern)
  | plain (p : Pattern)
  | same (index : Nat) (casing : Casing)
  | ahead (negated : Bool) (p : Pattern)
  | behind (negated : Bool) (width : Nat) (p : Pattern)
  | repeated (least : Nat) (most : Option Nat) (greed : Greed) (p : Pattern)
  | atomic (p : Pattern)
  | ifGroup (index : Nat) (yes no : Pattern)

/-- The least and the greatest number of characters that something matches. -/
structure Width where
  least : Nat
  most : Option Nat

/-- The sum of two greatest numbers, none being unbounded. -/
def addMost : Option Nat → Option Nat → Option Nat
  | some m, some n => some (m + n)
  | _, _ => none

/-- The pattern that matches the character with a number. -/
def Pattern.char (code : Nat) (casing : Casing) : Pattern := .set false [.range code code] casing

/-- The width of a pattern, given the widths of the groups. -/
def Pattern.width (groups : Nat → Width) : Pattern → Width
  | .empty | .never | .anchor _ | .ahead _ _ | .behind _ _ _ => ⟨0, some 0⟩
  | .any _ | .set _ _ _ => ⟨1, some 1⟩
  | .seq p q => ⟨(p.width groups).least + (q.width groups).least,
      addMost (p.width groups).most (q.width groups).most⟩
  | .alt p q | .ifGroup _ p q => ⟨min (p.width groups).least (q.width groups).least,
      match (p.width groups).most, (q.width groups).most with
      | some m, some n => some (max m n)
      | _, _ => none⟩
  | .group _ p | .plain p | .atomic p => p.width groups
  | .same index _ => groups index
  | .repeated least most _ p => ⟨least * (p.width groups).least,
      match most, (p.width groups).most with
      | some m, some n => some (m * n)
      | none, some 0 => some 0
      | _, _ => none⟩

/-- The number of nodes of a pattern and of the repetitions it demands. -/
def Pattern.cost : Pattern → Nat
  | .seq p q | .alt p q | .ifGroup _ p q => p.cost + q.cost + 1
  | .group _ p | .plain p | .ahead _ p | .behind _ _ p | .atomic p => p.cost + 1
  | .repeated least _ _ p => (least + 1) * (p.cost + 1)
  | _ => 1

end Switchboard.Regex
