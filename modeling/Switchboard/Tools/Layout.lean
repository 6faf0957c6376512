import Switchboard.Tools.Real

/-!
How a conversion lays out a value: flags, a least width, and a precision, whose meaning depends on the
kind of value.
-/
namespace Switchboard.Tools

/-- A layout. The precision cuts texts, gives integers a least number of digits, and gives real
numbers their places. -/
structure Layout where
  flags : List Char
  width : Nat
  precision : Option Nat

namespace Layout

/-- Whether a flag is set. -/
def has (l : Layout) (flag : Char) : Bool := flag ∈ l.flags

/-- Widens a value: behind it, between its lead and its digits, or in front of it. -/
def widened (l : Layout) (zeros : Bool) (lead body : Octets) : Octets :=
  let gap := l.width - (lead.length + body.length)
  if l.has '-' then lead ++ body ++ List.replicate gap ' '
  else if zeros && l.has '0' then lead ++ List.replicate gap '0' ++ body
  else List.replicate gap ' ' ++ lead ++ body

/-- A text, cut to the precision. -/
def text (l : Layout) (data : Octets) : Octets :=
  l.widened false [] (match l.precision with
    | some n => data.take n
    | none => data)

/-- What stands in front of a number with a sign. -/
def sign (l : Layout) (negative : Bool) : Octets :=
  if negative then ['-'] else if l.has '+' then ['+'] else if l.has ' ' then [' '] else []

/-- Digits filled up to the precision; no digits for a zero that needs none. -/
def digits (l : Layout) (base n : Nat) : Octets :=
  if n = 0 && l.precision = some 0 then []
  else
    let ds := Nat.toDigits base n
    List.replicate (l.precision.getD 0 - ds.length) '0' ++ ds

/-- A number with a sign. -/
def integer (l : Layout) (n : Int) : Octets :=
  l.widened l.precision.isNone (l.sign (n < 0)) (l.digits 10 n.natAbs)

/-- A number without a sign, in the base of a letter. -/
def natural (l : Layout) (letter : Char) (n : Nat) : Octets :=
  let zeros := l.precision.isNone
  match letter with
  | 'o' =>
    let ds := l.digits 8 n
    l.widened zeros [] (if l.has '#' && ds.head? != some '0' then '0' :: ds else ds)
  | 'x' => l.widened zeros (if l.has '#' && n != 0 then ['0', 'x'] else []) (l.digits 16 n)
  | 'X' =>
    l.widened zeros (if l.has '#' && n != 0 then ['0', 'X'] else [])
      ((l.digits 16 n).map Char.toUpper)
  | _ => l.widened zeros [] (l.digits 10 n)

/-- A real number, in the form of a letter. -/
def real (l : Layout) (p : Precision) (letter : Char) (negative : Bool) (size : Magnitude) : Octets :=
  let marked := l.has '#'
  let lead := l.sign negative
  let capital (cs : Octets) := if letter.isUpper then cs.map Char.toUpper else cs
  match size with
  | .undefined => l.widened false lead (capital "nan".toList)
  | .infinite => l.widened false lead (capital "inf".toList)
  | .finite mantissa exponent =>
    let places := l.precision.getD 6
    match letter.toLower with
    | 'f' => l.widened true lead (Real.fixed marked places mantissa exponent)
    | 'e' =>
      let (ds, top) := Real.scientific places mantissa exponent
      l.widened true lead (capital (Real.withExponent marked ds top))
    | 'g' => l.widened true lead (capital (Real.general marked places mantissa exponent))
    | _ =>
      l.widened true (lead ++ capital ['0', 'x'])
        (capital (Real.hexadecimal p marked l.precision mantissa exponent))

end Layout

end Switchboard.Tools
