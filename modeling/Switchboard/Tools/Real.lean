import Switchboard.Decimal.Shortest
import Switchboard.Tools.Octets

/-!
Real numbers of a fixed precision: reading them from the front of a text, and their digits with a
fixed number of places, with an exponent, or in base sixteen.

A number is kept exactly, as a mantissa times a power of two; only reading it and cutting its digits
round, both to the nearest and to the even neighbour in the middle.
-/
namespace Switchboard.Tools

/-- The size of a number, without its sign. -/
inductive Magnitude where
  | undefined
  | infinite
  | finite (mantissa : Nat) (exponent : Int)
  deriving DecidableEq

/-- A kind of real numbers: the bits of a mantissa, the exponent of the smallest number, the exponent
that is too large for any, and the bits in front of the point in base sixteen. -/
structure Precision where
  bits : Nat
  lowest : Int
  limit : Int
  lead : Nat

namespace Precision

/-- Numbers of 64 bits. -/
def double : Precision := ⟨53, -1074, 1024, 1⟩

/-- Numbers of 80 bits. -/
def extended : Precision := ⟨64, -16445, 16384, 4⟩

/-- The number nearest to a quotient, and whether it lies outside of what is held exactly. -/
def nearest (p : Precision) (num den : Nat) : Magnitude × Bool :=
  let scaled (e : Int) : Nat × Nat :=
    let (up, down) := Decimal.factors 2 e
    (num * down, den * up)
  let width : Int := (num.log2 : Int) - den.log2
  let start : Int := max (width - p.bits) p.lowest
  let exponent := if (scaled start).1 / (scaled start).2 ≥ Nat.pow 2 p.bits then start + 1 else start
  let (n, d) := scaled exponent
  let rounded := Decimal.roundQuotient n d
  let (mantissa, exponent) :=
    if rounded = Nat.pow 2 p.bits then (Nat.pow 2 (p.bits - 1), exponent + 1) else (rounded, exponent)
  if mantissa.log2 + exponent ≥ p.limit then (.infinite, true)
  else (.finite mantissa exponent, mantissa < Nat.pow 2 (p.bits - 1) && n % d != 0)

/-- The number nearest to `digits · base ^ exponent`. -/
def ofDigits (p : Precision) (base digits : Nat) (exponent : Int) : Magnitude × Bool :=
  let top : Int := exponent + Decimal.digitCount digits
  if digits = 0 then (.finite 0 0, false)
  else if top < -20000 then (.finite 0 0, true)
  else if top > 20000 then (.infinite, true)
  else
    let (up, down) := Decimal.factors base exponent
    p.nearest (digits * up) down

end Precision

namespace Real

/-- What reading a number gives: its sign, its size, whether it is out of range, and the rest. -/
structure Reading where
  negative : Bool
  size : Magnitude
  outOfRange : Bool
  rest : Octets

/-- The exponent behind a mark, and the rest; without digits the mark belongs to the rest. -/
def takeExponent (marks : List Char) (cs : Octets) : Int × Octets :=
  match cs with
  | c :: rest =>
    let (negative, digits) := match rest with
      | '-' :: more => (true, more)
      | '+' :: more => (false, more)
      | more => (false, more)
    let number := digits.takeWhile Text.isDigit
    if c ∈ marks && !number.isEmpty then
      let n : Int := min (Text.digitsValue number) 1000000
      (if negative then -n else n, digits.drop number.length)
    else (0, cs)
  | [] => (0, [])

/-- Digits with at most one point between them: those in front of it, those behind it, and the
rest. -/
def takeDigits (isDigit : Char → Bool) (cs : Octets) : Octets × Octets × Octets :=
  let whole := cs.takeWhile isDigit
  match cs.drop whole.length with
  | '.' :: rest =>
    let fraction := rest.takeWhile isDigit
    if whole.isEmpty && fraction.isEmpty then ([], [], cs)
    else (whole, fraction, rest.drop fraction.length)
  | rest => (whole, [], rest)

/-- The size that an unsigned text writes in front, and the rest. -/
def takeMagnitude? (p : Precision) (cs : Octets) : Option ((Magnitude × Bool) × Octets) :=
  let word := Text.lowerAscii (cs.take 8)
  let (whole, fraction, rest) := takeDigits Text.isDigit cs
  let (hexWhole, hexFraction, hexRest) :=
    takeDigits (fun c => (Text.hexValue? c).isSome) (cs.drop 2)
  if word = "infinity".toList then some ((.infinite, false), cs.drop 8)
  else if word.take 3 = "inf".toList then some ((.infinite, false), cs.drop 3)
  else if word.take 3 = "nan".toList then some ((.undefined, false), cs.drop 3)
  else if word.take 2 = "0x".toList && !(hexWhole ++ hexFraction).isEmpty then
    let (e, rest) := takeExponent ['p', 'P'] hexRest
    let digits := (hexWhole ++ hexFraction).foldl (fun n c => 16 * n + (Text.hexValue? c).getD 0) 0
    some (p.ofDigits 2 digits (e - 4 * hexFraction.length), rest)
  else if (whole ++ fraction).isEmpty then none
  else
    let (e, rest) := takeExponent ['e', 'E'] rest
    some (p.ofDigits 10 (Text.digitsValue (whole ++ fraction)) (e - fraction.length), rest)

/-- Reads a number from the front of a text, behind blanks and a sign. -/
def read? (p : Precision) (cs : Octets) : Option Reading :=
  let body := cs.dropWhile Octets.isSpace
  let (negative, unsigned) := match body with
    | '-' :: rest => (true, rest)
    | '+' :: rest => (false, rest)
    | rest => (false, rest)
  (takeMagnitude? p unsigned).map fun ((size, outOfRange), rest) =>
    ⟨negative, size, outOfRange, rest⟩

/-- A mantissa with a point behind its first digits; `marked` keeps a point with nothing behind. -/
def pointed (marked : Bool) (whole fraction : Octets) : Octets :=
  if fraction.isEmpty && !marked then whole else whole ++ '.' :: fraction

/-- The digits of a finite number with so many places. -/
def fixed (marked : Bool) (places mantissa : Nat) (exponent : Int) : Octets :=
  let (up, down) := Decimal.factors 2 exponent
  let n := Decimal.roundQuotient (mantissa * up * Nat.pow 10 places) down
  let digits := Nat.toDigits 10 n
  let digits := List.replicate (places + 1 - digits.length) '0' ++ digits
  pointed marked (digits.take (digits.length - places)) (digits.drop (digits.length - places))

/-- The first digits of a finite number, one more than `places`, and the exponent of the first. -/
def scientific (places mantissa : Nat) (exponent : Int) : Octets × Int :=
  if mantissa = 0 then (List.replicate (places + 1) '0', 0)
  else
    let (up, down) := Decimal.factors 2 exponent
    let top := Decimal.leadingExponent (mantissa * up) down
    let (tens, parts) := Decimal.factors 10 ((places : Int) - top)
    let digits := Nat.toDigits 10 (Decimal.roundQuotient (mantissa * up * tens) (down * parts))
    -- rounding up may give one digit more
    if digits.length > places + 1 then (digits.take (places + 1), top + 1) else (digits, top)

/-- Digits and the exponent of the first of them, with a point and a mark. -/
def withExponent (marked : Bool) (digits : Octets) (top : Int) : Octets :=
  pointed marked (digits.take 1) (digits.drop 1) ++ 'e' :: Decimal.exponentText top

/-- A text of digits without zeros at its end. -/
def withoutZeros (digits : Octets) : Octets := (digits.reverse.dropWhile (· = '0')).reverse

/-- The shorter of both forms with so many digits, without zeros at its end unless marked. -/
def general (marked : Bool) (count mantissa : Nat) (exponent : Int) : Octets :=
  let count := max count 1
  let (digits, top) := scientific (count - 1) mantissa exponent
  let shown (digits : Octets) := if marked then digits else withoutZeros digits
  if -4 ≤ top && top < count then
    let places := (count - 1 - top).toNat
    let text := fixed true places mantissa exponent
    let whole := text.takeWhile (· != '.')
    pointed marked whole (shown (text.drop (whole.length + 1)))
  else withExponent marked (digits.take 1 ++ shown (digits.drop 1)) top

/-- A finite number in base sixteen, with so many places or with as many as it has. -/
def hexadecimal (p : Precision) (marked : Bool) (places : Option Nat) (mantissa : Nat)
    (exponent : Int) : Octets :=
  -- the mantissa is widened so that its bits behind the point fill whole digits
  let held := (p.bits - p.lead + 3) / 4
  let top : Int := if mantissa = 0 then 0
    else max (exponent + mantissa.log2 + 1 - p.lead) (p.lowest + p.bits - p.lead)
  let wide := mantissa * Nat.pow 2 (exponent - top + 4 * held).toNat
  let cut := match places with
    | some n => if n < held then Decimal.roundQuotient wide (Nat.pow 16 (held - n)) * Nat.pow 16 (held - n) else wide
    | none => wide
  -- rounding up may overflow the digit in front
  let (cut, top) := if cut / Nat.pow 16 held ≥ 16 then (cut / 16, top + 4) else (cut, top)
  let digits := Text.hex held (cut % Nat.pow 16 held)
  let fraction := match places with
    | some n => digits.take n ++ List.replicate (n - held) '0'
    | none => withoutZeros digits
  let mark : Char := if top < 0 then '-' else '+'
  pointed marked (Nat.toDigits 16 (cut / Nat.pow 16 held)) fraction
    ++ 'p' :: mark :: Nat.toDigits 10 top.natAbs

end Real

end Switchboard.Tools
