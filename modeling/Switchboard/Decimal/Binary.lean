/-!
A finite double as an exact binary fraction, and the double nearest to a fraction.

`decode` opens a double into sign, mantissa and exponent; `nearest` goes the other way from any
quotient of natural numbers, rounding to nearest with ties to the even mantissa.
-/
namespace Switchboard.Decimal

/-- The value `±mantissa · 2 ^ exponent`. `narrowBelow` says that the gap to the next smaller
magnitude is half of the gap to the next larger one. -/
structure Binary where
  negative : Bool
  mantissa : Nat
  exponent : Int
  narrowBelow : Bool

/-- The sign bit of a double. -/
def isNegative (x : Float) : Bool := (x.toBits >>> 63) != 0

/-- The exact value of a finite double. -/
def decode (x : Float) : Option Binary :=
  let bits := x.toBits.toNat
  let fraction : Nat := bits % Nat.pow 2 52
  let field : Nat := bits / Nat.pow 2 52 % 2048
  if field = 2047 then none
  else if field = 0 then some ⟨isNegative x, fraction, -1074, false⟩
  else some ⟨isNegative x, fraction + Nat.pow 2 52, (field : Int) - 1075, decide (fraction = 0 ∧ 1 < field)⟩

/-- The double with the given sign and magnitude bits. -/
def ofMagnitude (negative : Bool) (bits : Nat) : Float :=
  Float.ofBits (UInt64.ofNat (if negative then bits + Nat.pow 2 63 else bits))

/-- The magnitude bits of infinity. -/
def infinityBits : Nat := 2047 * Nat.pow 2 52

/-- Infinity of a sign. -/
def infinity (negative : Bool) : Float := ofMagnitude negative infinityBits

/-- The one value that stands for "not a number". -/
def notANumber : Float := Float.ofBits 0x7FF8000000000000

/-- A quotient rounded to the nearest natural number, ties to even. -/
def roundQuotient (num den : Nat) : Nat :=
  let q := num / den
  let twice := 2 * (num % den)
  if twice < den then q else if den < twice then q + 1 else q + q % 2

/-- The magnitude bits of the double nearest to `num / den`. -/
def nearestBits (num den : Nat) : Nat :=
  let width : Int := (num.log2 : Int) - den.log2
  -- `exponent` is that of the last mantissa bit; the quotient then has 52 to 54 bits
  let start : Int := max (width - 53) (-1074)
  let scaled (e : Int) : Nat × Nat :=
    if e ≥ 0 then (num, den * Nat.pow 2 e.toNat) else (num * Nat.pow 2 (-e).toNat, den)
  let exponent : Int :=
    if (scaled start).1 / (scaled start).2 ≥ Nat.pow 2 53 then start + 1 else start
  let mantissa := roundQuotient (scaled exponent).1 (scaled exponent).2
  -- a mantissa rounded up to `2 ^ 53` carries into the exponent field by itself
  let bits := mantissa + (exponent + 1074).toNat * Nat.pow 2 52
  if mantissa = 0 then 0 else min bits infinityBits

/-- The double nearest to `±num / den`. -/
def nearest (negative : Bool) (num den : Nat) : Float :=
  if num = 0 then ofMagnitude negative 0 else ofMagnitude negative (nearestBits num den)

/-- The number of decimal digits of a natural number; zero has one. -/
def digitCount (n : Nat) : Nat := (Nat.toDigits 10 n).length

/-- The double nearest to `±digits · 10 ^ exponent`. -/
def ofDecimal (negative : Bool) (digits : Nat) (exponent : Int) : Float :=
  let top : Int := exponent + digitCount digits
  if digits = 0 || top < -330 then ofMagnitude negative 0
  else if top > 310 then infinity negative
  else if exponent ≥ 0 then nearest negative (digits * Nat.pow 10 exponent.toNat) 1
  else nearest negative digits (Nat.pow 10 (-exponent).toNat)

/-- The double nearest to an integer; `none` when it is out of range. -/
def ofInt? (i : Int) : Option Float :=
  let x := nearest (i < 0) i.natAbs 1
  if (decode x).isSome then some x else none

/-- A finite double as the exact quotient of an integer by a positive number. -/
def toQuotient? (x : Float) : Option (Int × Nat) :=
  (decode x).map fun b =>
    let n : Int := if b.negative then -(b.mantissa : Int) else b.mantissa
    if b.exponent ≥ 0 then (n * Nat.pow 2 b.exponent.toNat, 1) else (n, Nat.pow 2 (-b.exponent).toNat)

/-- The integer that a double is, if it is one. -/
def toInt? (x : Float) : Option Int :=
  match toQuotient? x with
  | some (n, d) => if n % (d : Int) = 0 then some (n / (d : Int)) else none
  | none => none

end Switchboard.Decimal
