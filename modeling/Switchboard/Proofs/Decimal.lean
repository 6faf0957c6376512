import Mathlib
import Switchboard.Decimal.Binary

/-!
The sign of a double.

* `neg_ofBits` — with the other sign bit a number is the negative;
* `neg_ofDecimal` — so the double nearest to a negative decimal is the negative of the one nearest to the decimal.

The readers of the two notations need the last one: one of them reads the sign with the digits, and the other one
changes the sign of what the digits write.
-/
namespace Switchboard.Decimal

open Float.Model (Format)
open Float.Model.UnpackedFloat

/-! ### Bits -/

/-- The bits of a double. -/
abbrev Bits := BitVec Format.binary64.numBits

/-- Two words that differ in the sign alone are the bits of a double and of its negative. -/
structure IsNegated (b b' : Bits) : Prop where
  sign : Sign.ofBitVec (unpackSign b') = -Sign.ofBitVec (unpackSign b)
  exponent : unpackExponent b' = unpackExponent b
  mantissa : unpackMantissa b' = unpackMantissa b

theorem neg_unpack {b b' : Bits} (h : IsNegated b b') :
    (unpack Format.binary64 b).neg = unpack Format.binary64 b' := by
  simp only [unpack, h.sign, h.exponent, h.mantissa]
  split_ifs <;> rfl

theorem neg_ofBits {a a' : UInt64} (hvalid : Format.binary64.Valid a.toBitVec) (h : IsNegated a.toBitVec a'.toBitVec) :
    -(Float.ofBits a) = Float.ofBits a' := by
  -- the model of a double keeps its bits, and changes the sign of what is unpacked from them
  have hback : (Float.Model.ofBits a).toBits = a := UInt64.toBitVec_inj.mp (pack_unpack_of_valid hvalid)
  have hmodel : (Float.Model.ofBits a).neg = Float.Model.ofBits a' := by
    rw [Float.Model.neg, Float.Model.unpack, hback, neg_unpack h]
    rfl
  exact congrArg Float.ofModel hmodel

/-- The bits that a number writes in base two. -/
def wordOf (n : Nat) : Bits := (UInt64.ofNat n).toBitVec

/-- The sign, the exponent and the mantissa stand one behind the other. -/
theorem unpack_wordOf {n : Nat} (h : n < 2 ^ 64) :
    (unpackSign (wordOf n)).toNat = n / 2 ^ 63 ∧ (unpackExponent (wordOf n)).toNat = n / 2 ^ 52 % 2 ^ 11 ∧
      (unpackMantissa (wordOf n)).toNat = n % 2 ^ 52 := by
  simp [wordOf, unpackSign, unpackExponent, unpackMantissa, Nat.shiftRight_eq_div_pow]
  omega

theorem neg_ofMagnitude {bits : Nat} (h : bits ≤ infinityBits) :
    -(ofMagnitude false bits) = ofMagnitude true bits := by
  have hbits : bits ≤ 2047 * 2 ^ 52 := h
  obtain ⟨hsign, hexponent, hmantissa⟩ := unpack_wordOf (n := bits) (by omega)
  -- above the magnitude there is only the sign
  obtain ⟨hsign', hexponent', hmantissa'⟩ := unpack_wordOf (n := bits + 2 ^ 63) (by omega)
  have hpositive : unpackSign (wordOf bits) = 0#1 := by
    refine BitVec.eq_of_toNat_eq (hsign.trans ?_)
    change _ = 0
    omega
  have hnegative : unpackSign (wordOf (bits + 2 ^ 63)) = 1#1 := by
    refine BitVec.eq_of_toNat_eq (hsign'.trans ?_)
    change _ = 1
    omega
  have hvalid : Format.binary64.Valid (wordOf bits) := by
    -- no magnitude is greater than that of infinity
    refine ⟨fun hlast hmantissa => absurd (BitVec.eq_of_toNat_eq ?_) hmantissa⟩
    have hlast := congrArg BitVec.toNat hlast
    change _ = 2 ^ 11 - 1 at hlast
    change _ = 0
    omega
  have hnegated : IsNegated (wordOf bits) (wordOf (bits + 2 ^ 63)) := by
    refine ⟨?_, ?_, ?_⟩
    · rw [hpositive, hnegative]
      rfl
    · exact BitVec.eq_of_toNat_eq ((hexponent'.trans (by omega)).trans hexponent.symm)
    · exact BitVec.eq_of_toNat_eq ((hmantissa'.trans (by omega)).trans hmantissa.symm)
  exact neg_ofBits hvalid hnegated

/-! ### Decimals -/

theorem nearestBits_le (num den : Nat) : nearestBits num den ≤ infinityBits := by
  rw [nearestBits]
  dsimp only
  split_ifs <;> first | exact Nat.zero_le _ | exact Nat.min_le_right _ _

/-- The double nearest to a negative decimal is the negative of the double nearest to the decimal. -/
theorem neg_ofDecimal (digits : Nat) (exponent : Int) :
    -(ofDecimal false digits exponent) = ofDecimal true digits exponent := by
  have hnearest : ∀ num den, -(nearest false num den) = nearest true num den := by
    intro num den
    rw [nearest, nearest]
    split_ifs
    · exact neg_ofMagnitude (Nat.zero_le _)
    · exact neg_ofMagnitude (nearestBits_le num den)
  rw [ofDecimal, ofDecimal]
  split_ifs
  · exact neg_ofMagnitude (Nat.zero_le _)
  · exact neg_ofMagnitude (Nat.le_refl _)
  · exact hnearest _ _
  · exact hnearest _ _

end Switchboard.Decimal
