/-
The rational numbers that floating-point numbers denote.

Every finite floating-point number is a whole significand times a power of two, and so denotes a
rational number; the infinities and the undefined number denote none.  What the library computes
on significands and exponents is stated here about the rational number: cutting off the places
behind the point takes the nearest integer on the side of zero.
-/
import CardTalk.Number.Arithmetic
import Mathlib.Data.Nat.Cast.Field
import Mathlib.Data.Rat.Floor

namespace CardTalk

/-- The integer that is left of a number without the places behind its point. -/
def towardZero (q : ℚ) : ℤ := if 0 ≤ q then ⌊q⌋ else ⌈q⌉

namespace Binary

/-- The number that is denoted, if there is one. -/
def value? : Binary → Option ℚ
  | finite negative significand exponent => some (signed negative significand * 2 ^ exponent)
  | infinite _ | undefined => none

theorem two_zpow_of_neg {exponent : ℤ} (h : exponent < 0) :
    (2 : ℚ) ^ exponent = ((2 ^ exponent.natAbs : ℕ) : ℚ)⁻¹ := by
  rw [Nat.cast_pow, Nat.cast_ofNat, ← zpow_natCast, ← zpow_neg]
  congr 1
  omega

theorem two_zpow_of_nonneg {exponent : ℤ} (h : ¬exponent < 0) :
    (2 : ℚ) ^ exponent = ((2 ^ exponent.toNat : ℕ) : ℚ) := by
  rw [Nat.cast_pow, Nat.cast_ofNat, ← zpow_natCast]
  congr 1
  omega

theorem floor_eq_wholePart (significand : ℕ) (exponent : ℤ) :
    ⌊(significand : ℚ) * 2 ^ exponent⌋ = wholePart significand exponent := by
  unfold wholePart
  by_cases h : exponent < 0
  · rw [if_pos h, two_zpow_of_neg h, ← div_eq_mul_inv]
    exact Rat.floor_intCast_div_natCast significand _
  · rw [if_neg h, two_zpow_of_nonneg h, ← Nat.cast_mul]
    exact Int.floor_natCast _

/-- A whole number has no places to cut off. -/
theorem eq_wholePart {significand : ℕ} {exponent : ℤ} (h : isWhole significand exponent) :
    (significand : ℚ) * 2 ^ exponent = wholePart significand exponent := by
  unfold isWhole at h
  unfold wholePart
  by_cases hneg : exponent < 0
  · rw [if_pos hneg, beq_iff_eq] at h
    have hdvd : 2 ^ exponent.natAbs ∣ significand := Nat.dvd_of_mod_eq_zero h
    have hpower : ((2 ^ exponent.natAbs : ℕ) : ℚ) ≠ 0 :=
      Nat.cast_ne_zero.mpr (Nat.two_pow_pos _).ne'
    rw [if_pos hneg, two_zpow_of_neg hneg, ← div_eq_mul_inv]
    exact (Nat.cast_div hdvd hpower).symm
  · rw [if_neg hneg, two_zpow_of_nonneg hneg, ← Nat.cast_mul]
    rfl

end Binary

/-- The number that a floating-point number denotes, if it is finite. -/
def Number.value? (x : Float) : Option ℚ := (Binary.of x).value?

namespace Number

/-- The whole part of a number is the integer that is left of it without its places. -/
theorem truncate_of_value? {x : Float} {q : ℚ} (h : value? x = some q) :
    truncate x = .ok (towardZero q) := by
  unfold value? at h
  unfold truncate
  cases hx : Binary.of x with
  | finite negative significand exponent =>
      rw [hx] at h
      obtain rfl := Option.some.inj h
      have hsize : 0 ≤ (significand : ℚ) * 2 ^ exponent :=
        mul_nonneg (Nat.cast_nonneg _) (zpow_nonneg zero_le_two _)
      have hfloor := Binary.floor_eq_wholePart significand exponent
      cases negative with
      | false => simp [Binary.signed, towardZero, hsize, hfloor]
      | true =>
          have hceil : ⌈-((significand : ℚ) * 2 ^ exponent)⌉ =
              -(Binary.wholePart significand exponent : ℤ) := by rw [Int.ceil_neg, hfloor]
          simp only [Binary.signed, towardZero, if_true, Int.cast_neg, Int.cast_natCast, neg_mul]
          split
          · rename_i hneg
            have hzero : (significand : ℚ) * 2 ^ exponent = 0 := by linarith
            rw [hzero, Int.floor_zero] at hfloor
            rw [hzero, neg_zero, Int.floor_zero, ← hfloor, neg_zero]
          · rw [hceil]
  | infinite negative =>
      rw [hx] at h
      exact nomatch h
  | undefined =>
      rw [hx] at h
      exact nomatch h

end Number

end CardTalk
