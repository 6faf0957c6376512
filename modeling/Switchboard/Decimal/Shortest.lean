import Switchboard.Decimal.Binary

/-!
The shortest decimal that reads back as a given double, and its text.

Among the decimals that round to the double, `shortest` takes one with the fewest digits and, of
those, the nearest; only the two neighbours of the double on each decimal grid need to be tested,
since if any point of a grid lies in the rounding interval then so does one of them.
-/
namespace Switchboard.Decimal

/-- A positive decimal `digits · 10 ^ exponent`. -/
structure Digits where
  digits : Nat
  exponent : Int

/-- Drops trailing zeros from the digits; `fuel` bounds their number. -/
def Digits.trim (d : Digits) : (fuel : Nat) → Digits
  | 0 => d
  | fuel + 1 =>
    if d.digits % 10 = 0 && d.digits != 0 then Digits.trim ⟨d.digits / 10, d.exponent + 1⟩ fuel
    else d

/-- The exponent of the first digit of the positive quotient `num / den`. -/
def leadingExponent (num den : Nat) : Int :=
  if num ≥ den then (digitCount (num / den) : Int) - 1
  else -(digitCount ((den + num - 1) / num - 1) : Int)

/-- `2 ^ e` as a factor of a numerator and a factor of a denominator. -/
def factors (base : Nat) (e : Int) : Nat × Nat :=
  if e ≥ 0 then (Nat.pow base e.toNat, 1) else (1, Nat.pow base (-e).toNat)

/-- The shortest decimal in the rounding interval of a positive double, `mantissa · 2 ^ exponent`. -/
def shortest (b : Binary) : Digits :=
  -- in quarters of the last bit: the value is `4 m`, the interval `[4 m - below, 4 m + 2]`
  let (up, down) := factors 2 (b.exponent - 2)
  let value := 4 * b.mantissa
  let low := if b.narrowBelow then value - 1 else value - 2
  let high := value + 2
  let closed := b.mantissa % 2 = 0
  let top := leadingExponent (value * up) down
  let inside (d : Nat) (tens : Nat × Nat) : Bool :=
    let left := low * up * tens.2
    let point := d * tens.1 * down
    let right := high * up * tens.2
    if closed then left ≤ point && point ≤ right else left < point && point < right
  let rec search : (more : Nat) → (count : Nat) → Digits
    | 0, _ => ⟨value, b.exponent - 2⟩
    | more + 1, count =>
      let e := top - count + 1
      let tens := factors 10 e
      let num := value * up * tens.2
      let den := down * tens.1
      let under := num / den
      match inside under tens, inside (under + 1) tens with
      | true, true => ⟨roundQuotient num den, e⟩
      | true, false => ⟨under, e⟩
      | false, true => ⟨under + 1, e⟩
      | false, false => search more (count + 1)
  (search 17 1).trim 20

/-- How a floating-point number is written: positionally when the exponent of its first digit is at
least `least` and below `limit`, otherwise with an exponent; `pointInMantissa` adds `.0` to a
one-digit mantissa. -/
structure FloatStyle where
  least : Int
  limit : Int
  pointInMantissa : Bool
  infinite : String
  negativeInfinite : String
  undefined : String

/-- An exponent with its sign and at least two digits. -/
def exponentText (e : Int) : List Char :=
  let digits := Nat.toDigits 10 e.natAbs
  (if e < 0 then '-' else '+') :: (if digits.length < 2 then '0' :: digits else digits)

/-- The text of a positive decimal. -/
def Digits.text (style : FloatStyle) (d : Digits) : List Char :=
  let digits := Nat.toDigits 10 d.digits
  let lead : Int := d.exponent + digits.length - 1
  if style.least ≤ lead && lead < style.limit then
    if d.exponent ≥ 0 then digits ++ List.replicate d.exponent.toNat '0' ++ ['.', '0']
    else if lead ≥ 0 then
      digits.take (lead.toNat + 1) ++ '.' :: digits.drop (lead.toNat + 1)
    else ['0', '.'] ++ List.replicate ((-lead).toNat - 1) '0' ++ digits
  else
    let mantissa := match digits with
      | [d] => if style.pointInMantissa then [d, '.', '0'] else [d]
      | d :: rest => d :: '.' :: rest
      | [] => []
    mantissa ++ 'e' :: exponentText lead

/-- The text of a double. -/
def floatText (style : FloatStyle) (x : Float) : String :=
  match decode x with
  | some b =>
    let body := if b.mantissa = 0 then ['0', '.', '0'] else (shortest b).text style
    String.ofList (if b.negative then '-' :: body else body)
  | none =>
    if x.toBits.toNat % Nat.pow 2 52 != 0 then style.undefined
    else if isNegative x then style.negativeInfinite else style.infinite

end Switchboard.Decimal
