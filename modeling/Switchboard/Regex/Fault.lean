import Switchboard.Text.Quoted
import Switchboard.Text.Numeral

/-!
Why an expression cannot be read.

A `Complaint` says what is not well formed; a `Fault` is a complaint with the place where it arose, or
one of the few faults that no place goes with.
-/
namespace Switchboard.Regex

/-- What is not well formed in an expression. -/
inductive Complaint where
  | danglingBackslash
  | absent (what : String)
  | unterminatedName (closing : Char)
  | badNameCharacter (name : String)
  | incompleteEscape (escape : String)
  | unnamedCharacter (name : String)
  | octalTooLarge (escape : String)
  | badEscape (escape : String)
  | openGroup
  | groupOfSameLookBehind
  | noSuchGroup (index : Nat)
  | unknownGroup (name : String)
  | groupZero
  | redefinedGroup (name : String) (index earlier : Nat)
  | unterminatedSet
  | badRange (low high : String)
  | boundsReversed
  | nothingToRepeat
  | repeatedRepetition
  | unexpectedEnd
  | unknownExtension (mark : String)
  | unterminatedRemark
  | unterminatedGroup
  | unbalancedBracket
  | thirdBranch
  | lateSwitches
  | localeSwitch
  | rivalSwitches
  | unknownSwitch
  | fixedSwitch
  | switchForAll (on : Bool)
  | switchOnAndOff
  | looksTooFarBack
  | varyingLookBehind
  | unsupportedRepetition (greed : String)
  deriving DecidableEq

/-- The wording of a complaint. -/
def Complaint.message : Complaint → String
  | .danglingBackslash => "bad escape (end of pattern)"
  | .absent what => "missing " ++ what
  | .unterminatedName closing => "missing " ++ String.singleton closing ++ ", unterminated name"
  | .badNameCharacter name => "bad character in group name " ++ Text.quoted name
  | .incompleteEscape escape => "incomplete escape " ++ escape
  | .unnamedCharacter name => "undefined character name " ++ Text.quoted name
  | .octalTooLarge escape => "octal escape value " ++ escape ++ " outside of range 0-0o377"
  | .badEscape escape => "bad escape " ++ escape
  | .openGroup => "cannot refer to an open group"
  | .groupOfSameLookBehind => "cannot refer to group defined in the same lookbehind subpattern"
  | .noSuchGroup index => "invalid group reference " ++ toString index
  | .unknownGroup name => "unknown group name " ++ Text.quoted name
  | .groupZero => "bad group number"
  | .redefinedGroup name index earlier =>
    "redefinition of group name " ++ Text.quoted name ++ " as group " ++ toString index
      ++ "; was group " ++ toString earlier
  | .unterminatedSet => "unterminated character set"
  | .badRange low high => "bad character range " ++ low ++ "-" ++ high
  | .boundsReversed => "min repeat greater than max repeat"
  | .nothingToRepeat => "nothing to repeat"
  | .repeatedRepetition => "multiple repeat"
  | .unexpectedEnd => "unexpected end of pattern"
  | .unknownExtension mark => "unknown extension ?" ++ mark
  | .unterminatedRemark => "missing ), unterminated comment"
  | .unterminatedGroup => "missing ), unterminated subpattern"
  | .unbalancedBracket => "unbalanced parenthesis"
  | .thirdBranch => "conditional backref with more than two branches"
  | .lateSwitches => "global flags not at the start of the expression"
  | .localeSwitch => "bad inline flags: cannot use 'L' flag with a str pattern"
  | .rivalSwitches => "bad inline flags: flags 'a', 'u' and 'L' are incompatible"
  | .unknownSwitch => "unknown flag"
  | .fixedSwitch => "bad inline flags: cannot turn off flags 'a', 'u' and 'L'"
  | .switchForAll on => "bad inline flags: cannot turn " ++ (if on then "on" else "off") ++ " global flag"
  | .switchOnAndOff => "bad inline flags: flag turned on and off"
  | .looksTooFarBack => "looks too much behind"
  | .varyingLookBehind => "look-behind requires fixed-width pattern"
  | .unsupportedRepetition greed => "internal: unsupported template operator " ++ greed

/-- A place in an expression: the number of characters before it, and its line and column when the
expression has several lines. -/
structure Place where
  position : Nat
  lineAndColumn : Option (Nat × Nat)
  deriving DecidableEq

/-- The place behind a number of characters. -/
def Place.behind (expression : List Char) (position : Nat) : Place :=
  let before := expression.take position
  let column := (before.reverse.takeWhile (· != '\n')).length + 1
  ⟨position,
    if expression.contains '\n' then some (before.count '\n' + 1, column) else none⟩

/-- A place in words. -/
def Place.message (p : Place) : String :=
  " at position " ++ toString p.position
    ++ (match p.lineAndColumn with
      | some (line, column) => " (line " ++ toString line ++ ", column " ++ toString column ++ ")"
      | none => "")

/-- Why an expression cannot be read. -/
inductive Fault where
  | malformed (complaint : Complaint) (place : Option Place)
  | tooManyRounds
  | contradictorySwitches
  | longNumber (digits : Nat)
  deriving DecidableEq

/-- The message for a fault. -/
def Fault.message : Fault → String
  | .malformed complaint place => complaint.message ++ (place.map Place.message).getD ""
  | .tooManyRounds => "the repetition number is too large"
  | .contradictorySwitches => "ASCII and UNICODE flags are incompatible"
  | .longNumber digits => Text.Numeral.tooLongMessage digits

end Switchboard.Regex
