import Switchboard.Decimal.Binary
import Switchboard.Text.Blank

/-!
The doubles that texts write: a sign, digits with at most one point, an exponent, or a word for
infinity or for the undefined number.
-/
namespace Switchboard.Decimal

/-- Whether a text starts with a minus sign, and what follows its sign. -/
def splitSign (cs : List Char) : Bool × List Char :=
  match cs with
  | '-' :: rest => (true, rest)
  | '+' :: rest => (false, rest)
  | _ => (false, cs)

/-- The double that unsigned digits with at most one point and an exponent write. -/
def ofUnsigned? (negative : Bool) (cs : List Char) : Option Float :=
  let whole := cs.takeWhile Text.isDigit
  let rest := cs.drop whole.length
  let (fraction, rest) := match rest with
    | '.' :: tail => (tail.takeWhile Text.isDigit, tail.dropWhile Text.isDigit)
    | _ => ([], rest)
  let number (exponent : Int) : Option Float :=
    if whole.isEmpty && fraction.isEmpty then none
    else some (ofDecimal negative (Text.digitsValue (whole ++ fraction)) (exponent - fraction.length))
  match rest with
  | [] => number 0
  | e :: tail =>
    let (below, digits) := splitSign tail
    if (e = 'e' || e = 'E') && !digits.isEmpty && digits.all Text.isDigit then
      let magnitude : Int := Text.digitsValue digits
      number (if below then -magnitude else magnitude)
    else none

/-- The double that a text writes; the words may be of any case. -/
def ofText? (cs : List Char) : Option Float :=
  let (negative, body) := splitSign cs
  let word := String.ofList (Text.lowerAscii body)
  if word = "inf" || word = "infinity" then some (infinity negative)
  else if word = "nan" then some notANumber
  else ofUnsigned? negative body

/-- A text without the low lines that stand between two digits; any other low line is refused. -/
def ungroup? : (afterDigit : Bool) → List Char → Option (List Char)
  | _, [] => some []
  | afterDigit, '_' :: c :: rest =>
    if afterDigit && Text.isDigit c then (ungroup? true rest).map (c :: ·) else none
  | _, c :: rest => if c = '_' then none else (ungroup? (Text.isDigit c) rest).map (c :: ·)

end Switchboard.Decimal
