/-
Arithmetic that needs no rounding.

A sum, a difference or a whole number that is the value of a floating-point number is computed
without rounding: the significand that is to be rounded is one that a floating-point number has,
up to zeros at its end, and shifting these out loses nothing (`roundWithAccuracy_exact`).
-/
import CardTalk.Proofs.Number.Binary
import CardTalk.Proofs.Number.Value
import CardTalk.Value
import Mathlib.Tactic.Ring
import Mathlib.Tactic.FieldSimp

namespace CardTalk.Binary

open Float.Model

/-! ### Rounding -/

/-- Shifting out zeros loses nothing. -/
theorem shiftRight_exact (significand zeros : ℕ) :
    (⟨significand * 2 ^ zeros, false, false⟩ : UnpackedFloat.ExtendedMantissa) >>> zeros =
      ⟨significand, false, false⟩ := by
  show Nat.repeat _ zeros _ = _
  induction zeros generalizing significand with
  | zero =>
      rw [pow_zero, mul_one]
      rfl
  | succ zeros ih =>
      rw [Nat.repeat, Nat.pow_succ', ← Nat.mul_assoc, ih (significand * 2)]
      simp [UnpackedFloat.ExtendedMantissa.shiftRightOne]

/-- The exponent that a number is to have is the one it has in its one form. -/
theorem targetExponent_eq {significand : ℕ} {exponent : ℤ} (hpos : 0 < significand)
    (h : Canonical significand exponent) :
    Format.binary64.targetExponent (totalExponent significand exponent) = exponent := by
  obtain ⟨hlt, hleast, -, hfull⟩ := h
  have hmin : Format.binary64.minExponent = -1074 := rfl
  have hbits : (Format.binary64.mantissaBits : ℤ) = 53 := rfl
  unfold Format.targetExponent totalExponent
  rw [hmin, hbits]
  have hlog : significand.log2 < 53 := (Nat.log2_lt (by omega)).mpr hlt
  rcases hfull with rfl | hfull
  · omega
  · have hlog' : significand.log2 = 52 := (Nat.log2_eq_iff (by omega)).mpr ⟨hfull, hlt⟩
    omega

theorem log2_mul_two_pow {n : ℕ} (hn : n ≠ 0) (k : ℕ) : (n * 2 ^ k).log2 = n.log2 + k := by
  induction k with
  | zero => rw [pow_zero, mul_one, Nat.add_zero]
  | succ k ih =>
      have hpower : n * 2 ^ k ≠ 0 := Nat.mul_ne_zero hn (Nat.two_pow_pos k).ne'
      rw [pow_succ', ← mul_assoc, mul_comm n 2, mul_assoc, Nat.log2_two_mul hpower, ih,
        Nat.add_assoc]

/-- A number that is in its one form but for zeros at the end of the significand keeps its value
when it is rounded. -/
theorem roundWithAccuracy_exact (sign : UnpackedFloat.Sign) {significand : ℕ} {exponent : ℤ}
    (hpos : 0 < significand) (h : Canonical significand exponent) (zeros : ℕ) :
    UnpackedFloat.roundWithAccuracy Format.binary64 sign (significand * 2 ^ zeros)
      (exponent - zeros) .exact = .finite sign significand exponent hpos := by
  have htarget := targetExponent_eq hpos h
  have htotal : totalExponent (significand * 2 ^ zeros) (exponent - zeros) =
      totalExponent significand exponent := by
    unfold totalExponent
    rw [log2_mul_two_pow hpos.ne']
    omega
  have hshift : UnpackedFloat.shiftToTargetExponent Format.binary64 (significand * 2 ^ zeros)
      (exponent - zeros) .exact = (⟨significand, false, false⟩, exponent) := by
    unfold UnpackedFloat.shiftToTargetExponent UnpackedFloat.shiftToExponent
    dsimp only
    rw [htotal, htarget, show (exponent - (exponent - zeros)).toNat = zeros by omega]
    exact Prod.ext (shiftRight_exact significand zeros) (by simp)
  have hkeep : UnpackedFloat.shiftToTargetExponent Format.binary64 significand exponent .exact =
      (⟨significand, false, false⟩, exponent) := by
    unfold UnpackedFloat.shiftToTargetExponent UnpackedFloat.shiftToExponent
    dsimp only
    rw [htarget, sub_self, Int.toNat_zero]
    exact Prod.ext rfl (by simp)
  unfold UnpackedFloat.roundWithAccuracy
  simp only [hshift, UnpackedFloat.ExtendedMantissa.roundedMantissa,
    UnpackedFloat.ExtendedMantissa.accuracy, UnpackedFloat.Accuracy.roundToNearestEven, hkeep]
  exact dif_neg hpos.ne'

/-- Two significands and exponents that denote the same number. -/
def Same (m : ℕ) (e : ℤ) (k : ℕ) (f : ℤ) : Prop :=
  m * 2 ^ (e - f).toNat = k * 2 ^ (f - e).toNat

theorem Same.pos {m k : ℕ} {e f : ℤ} (hk : 0 < k) (h : Same m e k f) : 0 < m := by
  rcases Nat.eq_zero_or_pos m with rfl | hm
  · rw [Same, zero_mul] at h
    exact absurd h.symm (Nat.mul_ne_zero hk.ne' (Nat.two_pow_pos _).ne')
  · exact hm

theorem Same.totalExponent_eq {m k : ℕ} {e f : ℤ} (hm : 0 < m) (hk : 0 < k) (h : Same m e k f) :
    totalExponent m e = totalExponent k f := by
  have hlog := congrArg Nat.log2 h
  rw [log2_mul_two_pow hm.ne', log2_mul_two_pow hk.ne'] at hlog
  unfold totalExponent
  omega

/-- There is no other such form for a number. -/
theorem Same.unique {m k : ℕ} {e f : ℤ} (hm : 0 < m) (hk : 0 < k) (hmform : Canonical m e)
    (hkform : Canonical k f) (h : Same m e k f) : m = k ∧ e = f := by
  have htotal := h.totalExponent_eq hm hk
  have hexponent : e = f := by
    rw [← targetExponent_eq hm hmform, htotal, targetExponent_eq hk hkform]
  subst hexponent
  rw [Same, sub_self, Int.toNat_zero, pow_zero, mul_one, mul_one] at h
  exact ⟨h, rfl⟩

/-- A number that has one form as a floating-point number is rounded to it. -/
theorem round_exact (sign : UnpackedFloat.Sign) {significand : ℕ} {exponent : ℤ}
    (hpos : 0 < significand) (h : Canonical significand exponent) {m : ℕ} {e : ℤ}
    (hsame : Same m e significand exponent) :
    UnpackedFloat.round Format.binary64 sign m e =
      .finite sign significand exponent hpos := by
  have htarget := targetExponent_eq hpos h
  have htotal := hsame.totalExponent_eq (hsame.pos hpos) hpos
  unfold UnpackedFloat.round
  rw [htotal, htarget]
  unfold UnpackedFloat.decreaseExponent
  dsimp only
  by_cases hle : e ≤ exponent
  · have hzero : (e - exponent).toNat = 0 := by omega
    have hexact := roundWithAccuracy_exact sign hpos h (exponent - e).toNat
    rw [Same, hzero, pow_zero, mul_one] at hsame
    rw [← hsame, show exponent - (exponent - e).toNat = e by omega] at hexact
    rwa [hzero, Nat.shiftLeft_zero, Nat.cast_zero, sub_zero]
  · have hzero : (exponent - e).toNat = 0 := by omega
    have hexact := roundWithAccuracy_exact sign hpos h 0
    rw [pow_zero, mul_one, Nat.cast_zero, sub_zero] at hexact
    rw [Same, hzero, pow_zero, mul_one, ← Nat.shiftLeft_eq] at hsame
    rwa [hsame, show e - (e - exponent).toNat = exponent by omega]

/-! ### Values -/

theorem same_of_value {m k : ℕ} {e f : ℤ} (h : (m : ℚ) * 2 ^ e = k * 2 ^ f) : Same m e k f := by
  have hpower : ∀ n : ℤ, (2 : ℚ) ^ n ≠ 0 := fun n => zpow_ne_zero n two_ne_zero
  have hcast : ((m * 2 ^ (e - f).toNat : ℕ) : ℚ) = ((k * 2 ^ (f - e).toNat : ℕ) : ℚ) := by
    push_cast
    rw [← zpow_natCast, ← zpow_natCast]
    by_cases hle : e ≤ f
    · rw [show (((e - f).toNat : ℕ) : ℤ) = 0 by omega,
        show (((f - e).toNat : ℕ) : ℤ) = f - e by omega, zpow_zero, mul_one, zpow_sub₀ two_ne_zero]
      field_simp [hpower e]
      exact h
    · rw [show (((f - e).toNat : ℕ) : ℤ) = 0 by omega,
        show (((e - f).toNat : ℕ) : ℤ) = e - f by omega, zpow_zero, mul_one, zpow_sub₀ two_ne_zero]
      field_simp [hpower f]
      rw [h, mul_comm]
  exact_mod_cast hcast

/-- A number that a floating-point number denotes has a form. -/
theorem exists_canonical {x : Float} {q : ℚ} (h : (Binary.of x).value? = some q) :
    ∃ negative significand exponent, Binary.of x = .finite negative significand exponent ∧
      Canonical significand exponent ∧ q = signed negative significand * 2 ^ exponent := by
  cases hx : Binary.of x with
  | finite negative significand exponent =>
      rw [hx] at h
      exact ⟨negative, significand, exponent, rfl, of_canonical hx, (Option.some.inj h).symm⟩
  | infinite | undefined =>
      rw [hx] at h
      exact nomatch h

/-- Numbers that are the same have the same sign and the same size, unless they are zero. -/
theorem signed_mul_eq {negative negative' : Bool} {m k : ℕ} {e f : ℤ} (hm : 0 < m)
    (h : (signed negative m : ℚ) * 2 ^ e = signed negative' k * 2 ^ f) :
    negative = negative' ∧ 0 < k ∧ (m : ℚ) * 2 ^ e = k * 2 ^ f := by
  have hpos : (0 : ℚ) < m * 2 ^ e := mul_pos (Nat.cast_pos.mpr hm) (zpow_pos two_pos e)
  have hnonneg : (0 : ℚ) ≤ k * 2 ^ f := mul_nonneg (Nat.cast_nonneg k) (zpow_pos two_pos f).le
  have hk : (m : ℚ) * 2 ^ e = k * 2 ^ f → 0 < k := fun heq => by
    rcases Nat.eq_zero_or_pos k with rfl | hk
    · rw [Nat.cast_zero, zero_mul] at heq
      linarith
    · exact hk
  cases negative <;> cases negative' <;> simp [signed] at h ⊢
  · exact ⟨hk h, h⟩
  · linarith
  · linarith
  · exact ⟨hk h, h⟩

theorem normalize_signed {negative : Bool} {m : ℕ} (hm : 0 < m) (e : ℤ) :
    UnpackedFloat.normalize Format.binary64 (signed negative m) e .positive =
      UnpackedFloat.round Format.binary64 (if negative then .negative else .positive) m e := by
  unfold UnpackedFloat.normalize
  cases negative with
  | false =>
      have hcompare : compare (signed false m) 0 = .gt := Int.compare_eq_gt.mpr (by simpa [signed])
      rw [hcompare]
      simp [signed]
  | true =>
      have hcompare : compare (signed true m) 0 = .lt := Int.compare_eq_lt.mpr (by simpa [signed])
      rw [hcompare]
      simp [signed]

theorem exists_signed (m : ℤ) : ∃ negative, m = signed negative m.natAbs := by
  rcases Int.natAbs_eq m with h | h
  · exact ⟨false, h⟩
  · exact ⟨true, h⟩

/-- A number that a floating-point number denotes is put together without rounding. -/
theorem value?_normalize {m : ℤ} {e : ℤ} {x : Float}
    (h : (Binary.of x).value? = some ((m : ℚ) * 2 ^ e)) :
    (Binary.of (packed (UnpackedFloat.normalize Format.binary64 m e .positive))).value? =
      some ((m : ℚ) * 2 ^ e) := by
  obtain ⟨negative', significand, exponent, -, hcanonical, hvalue⟩ := exists_canonical h
  obtain ⟨negative, hm⟩ := exists_signed m
  rcases Nat.eq_zero_or_pos m.natAbs with hzero | hpos
  · obtain rfl := Int.natAbs_eq_zero.mp hzero
    have hzero : UnpackedFloat.normalize Format.binary64 0 e .positive = .zero .positive := rfl
    rw [hzero, of_packed_zero]
    simp [value?, signed]
  · rw [hm] at hvalue ⊢
    obtain ⟨rfl, hsignificand, heq⟩ := signed_mul_eq hpos hvalue
    rw [normalize_signed hpos, round_exact _ hsignificand hcanonical (same_of_value heq),
      of_packed_canonical hsignificand hcanonical, value?, hvalue]
    cases negative <;> rfl

/-! ### Sums and differences -/

/-- What a number that is taken apart denotes, if it is taken apart in its one form. -/
structure Denotes (u : UnpackedFloat) (q : ℚ) : Prop where
  value : (ofUnpacked u).value? = some q
  canonical : ∀ {negative significand exponent},
    ofUnpacked u = .finite negative significand exponent → Canonical significand exponent

theorem denotes_unpack {x : Float} {q : ℚ} (h : (Binary.of x).value? = some q) :
    Denotes x.toModel.unpack q := by
  rw [of_eq] at h
  refine ⟨h, fun hx => ?_⟩
  rw [← of_eq] at hx
  exact of_canonical hx

theorem signed_neg (sign : UnpackedFloat.Sign) (n : ℕ) :
    signed (-sign == .negative) n = -signed (sign == .negative) n := by
  cases sign
  · show (n : ℤ) = -(-n)
    rw [neg_neg]
  · rfl

theorem Denotes.neg {u : UnpackedFloat} {q : ℚ} (h : Denotes u q) : Denotes u.neg (-q) := by
  obtain ⟨hvalue, hcanonical⟩ := h
  have hnegated : ∀ (sign : UnpackedFloat.Sign) (n : ℕ) (e : ℤ),
      (signed (-sign == .negative) n : ℚ) * 2 ^ e =
        -((signed (sign == .negative) n : ℚ) * 2 ^ e) := fun sign n e => by
    rw [signed_neg, Int.cast_neg, neg_mul]
  cases u with
  | infinity | notANumber => exact nomatch hvalue
  | zero sign =>
      obtain rfl := Option.some.inj hvalue
      refine ⟨congrArg some (hnegated sign 0 (-1074)), fun h => ?_⟩
      cases h
      exact hcanonical rfl
  | finite sign significand exponent hpos =>
      obtain rfl := Option.some.inj hvalue
      refine ⟨congrArg some (hnegated sign significand exponent), fun h => ?_⟩
      cases h
      exact hcanonical rfl

/-- A number is put together from what it is taken apart into. -/
theorem Denotes.packed {u : UnpackedFloat} {q : ℚ} (h : Denotes u q) :
    (Binary.of (packed u)).value? = some q := by
  obtain ⟨hvalue, hcanonical⟩ := h
  cases u with
  | infinity | notANumber => exact nomatch hvalue
  | zero sign =>
      rw [of_packed_zero]
      exact hvalue
  | finite sign significand exponent hpos =>
      rw [of_packed_canonical hpos (hcanonical rfl)]
      exact hvalue

theorem Denotes.zero {sign : UnpackedFloat.Sign} {q : ℚ} (h : Denotes (.zero sign) q) : q = 0 := by
  rw [← Option.some.inj h.value]
  cases sign <;> simp [signed]

/-- Writing a significand for a smaller exponent keeps the value. -/
theorem apply_shiftLeft (sign : UnpackedFloat.Sign) (significand : ℕ) {exponent least : ℤ}
    (h : least ≤ exponent) :
    ((sign.apply (significand <<< (exponent - least).toNat : ℕ) : ℤ) : ℚ) * 2 ^ least =
      signed (sign == .negative) significand * 2 ^ exponent := by
  have hpower : (2 : ℚ) ^ exponent = 2 ^ (exponent - least).toNat * 2 ^ least := by
    rw [← zpow_natCast, ← zpow_add₀ two_ne_zero]
    congr 1
    omega
  rw [Nat.shiftLeft_eq, hpower]
  cases sign
  · show ((-((significand * 2 ^ (exponent - least).toNat : ℕ) : ℤ) : ℤ) : ℚ) * 2 ^ least =
      ((-(significand : ℤ) : ℤ) : ℚ) * _
    push_cast
    ring
  · show ((((significand * 2 ^ (exponent - least).toNat : ℕ) : ℤ) : ℤ) : ℚ) * 2 ^ least =
      (((significand : ℤ) : ℤ) : ℚ) * _
    push_cast
    ring

/-- A sum that is the value of a floating-point number is computed without rounding. -/
theorem Denotes.add {u v : UnpackedFloat} {a b : ℚ} (hu : Denotes u a) (hv : Denotes v b)
    {x : Float} (h : (Binary.of x).value? = some (a + b)) :
    (Binary.of (Binary.packed (UnpackedFloat.add Format.binary64 u v))).value? = some (a + b) := by
  cases u with
  | infinity | notANumber => exact nomatch hu.value
  | zero s =>
      obtain rfl := hu.zero
      cases v with
      | infinity | notANumber => exact nomatch hv.value
      | zero s' =>
          obtain rfl := hv.zero
          have hsum : ∃ s'',
              UnpackedFloat.add Format.binary64 (.zero s) (.zero s') = .zero s'' := by
            cases s <;> cases s' <;> exact ⟨_, rfl⟩
          obtain ⟨s'', hsum⟩ := hsum
          rw [hsum, of_packed_zero]
          cases s'' <;> simp [value?, signed]
      | finite s' m' e' hm' =>
          rw [zero_add]
          exact hv.packed
  | finite s m e hm =>
      cases v with
      | infinity | notANumber => exact nomatch hv.value
      | zero s' =>
          obtain rfl := hv.zero
          rw [add_zero]
          exact hu.packed
      | finite s' m' e' hm' =>
          have hleft := apply_shiftLeft s m (min_le_left e e')
          have hright := apply_shiftLeft s' m' (min_le_right e e')
          have ha : _ = a := Option.some.inj hu.value
          have hb : _ = b := Option.some.inj hv.value
          rw [← ha, ← hb, ← hleft, ← hright, ← add_mul, ← Int.cast_add] at h ⊢
          exact value?_normalize h

theorem unpacked_sub_eq (u v : UnpackedFloat) :
    UnpackedFloat.sub Format.binary64 u v = UnpackedFloat.add Format.binary64 u v.neg := by
  have happly : ∀ (s : UnpackedFloat.Sign) (n : ℤ), (-s).apply n = -s.apply n := fun s n => by
    cases s
    · show n = -(-n)
      rw [neg_neg]
    · rfl
  cases u with
  | notANumber => rfl
  | infinity s => cases v <;> rfl
  | zero s => cases v <;> rfl
  | finite s m e hm =>
      cases v with
      | notANumber | infinity | zero => rfl
      | finite s' m' e' hm' =>
          unfold UnpackedFloat.sub UnpackedFloat.neg UnpackedFloat.add
          dsimp only
          rw [happly, Int.sub_eq_add_neg]

/-! ### Whole numbers -/

theorem unpack_of_finite {x : Float} {significand : ℕ} {exponent : ℤ} (hpos : 0 < significand)
    (h : Binary.of x = .finite false significand exponent) :
    x.toModel.unpack = .finite .positive significand exponent hpos := by
  rw [of_eq] at h
  cases hu : x.toModel.unpack with
  | infinity | notANumber =>
      rw [hu] at h
      exact nomatch h
  | zero sign =>
      rw [hu] at h
      obtain ⟨-, rfl, -⟩ := finite.inj h
      exact absurd hpos (Nat.lt_irrefl 0)
  | finite sign m e hm =>
      rw [hu] at h
      cases sign
      · exact nomatch (finite.inj h).1
      · obtain ⟨-, rfl, rfl⟩ := finite.inj h
        rfl

/-- Multiplying by a power of two does not round. -/
theorem of_mul_powerOfTwo {x y : Float} {significand : ℕ} {exponent shift : ℤ}
    (hpos : 0 < significand) (hx : Binary.of x = .finite false significand exponent)
    (hy : Binary.of y = .finite false (2 ^ 52) (shift - 52))
    (h : Canonical significand (exponent + shift)) :
    Binary.of (x * y) = .finite false significand (exponent + shift) := by
  have hproduct : x * y = packed
      (UnpackedFloat.mul Format.binary64 x.toModel.unpack y.toModel.unpack) := rfl
  rw [hproduct, unpack_of_finite hpos hx, unpack_of_finite (by decide) hy]
  have hexact := roundWithAccuracy_exact .positive hpos h 52
  rw [show exponent + shift - ((52 : ℕ) : ℤ) = exponent + (shift - 52) by omega] at hexact
  show Binary.of (packed (UnpackedFloat.roundWithAccuracy Format.binary64 .positive
    (significand * 2 ^ 52) (exponent + (shift - 52)) .exact)) = _
  rw [hexact, of_packed_canonical hpos h]
  rfl

/-- A whole number that has too many bits for a significand ends in zeros. -/
theorem Same.eq_mul {n significand : ℕ} {exponent : ℤ} (h : Canonical significand exponent)
    (hsame : Same n 0 significand exponent) (hn : 2 ^ 53 ≤ n) :
    0 ≤ exponent ∧ n = significand * 2 ^ exponent.toNat := by
  have hexponent : 0 ≤ exponent := by
    by_contra hno
    rw [Same, show (exponent - 0).toNat = 0 by omega, pow_zero, mul_one] at hsame
    have hlt := h.lt
    have hpower := Nat.two_pow_pos (0 - exponent).toNat
    have hle : n ≤ significand := by
      rw [← hsame]
      exact Nat.le_mul_of_pos_right n hpower
    omega
  refine ⟨hexponent, ?_⟩
  rw [Same, show (0 - exponent).toNat = 0 by omega, pow_zero, mul_one, sub_zero] at hsame
  exact hsame

/-- A word is converted without rounding if it has a floating-point number. -/
theorem of_toFloat {n significand : ℕ} {exponent : ℤ} (hn : n < 2 ^ 64) (hpos : 0 < significand)
    (h : Canonical significand exponent) (hsame : Same n 0 significand exponent) :
    Binary.of n.toUInt64.toFloat = .finite false significand exponent := by
  have hword : n.toUInt64.toNat = n := Nat.mod_eq_of_lt hn
  have hfloat : n.toUInt64.toFloat = packed (UnpackedFloat.normalize Format.binary64
      (signed false n.toUInt64.toNat) 0 .positive) := rfl
  rw [hfloat, hword, normalize_signed (hsame.pos hpos), round_exact _ hpos h hsame,
    of_packed_canonical hpos h]
  rfl

/-- A whole number with more bits than a significand is read without rounding if it has a
floating-point number. -/
theorem ofScientific_exact {n significand : ℕ} {exponent : ℤ} (hn : 2 ^ 53 ≤ n)
    (hpos : 0 < significand) (h : Canonical significand exponent)
    (hsame : Same n 0 significand exponent) :
    UnpackedFloat.ofScientific Format.binary64 n 0 =
      .finite .positive significand exponent hpos := by
  obtain ⟨hexponent, hn'⟩ := hsame.eq_mul h hn
  have hexact := roundWithAccuracy_exact .positive hpos h (exponent.toNat + 53)
  have hmantissa : (Format.binary64.mantissaBits : ℤ) = 53 := rfl
  have hroom : ¬(0 : ℤ) < -((2 ^ Format.binary64.exponentBits : ℤ) + n.log2) := by
    have hpower : (0 : ℤ) < 2 ^ Format.binary64.exponentBits := by decide
    omega
  have hsignificand : n <<< Format.binary64.mantissaBits * 10 ^ (0 : ℤ).toNat =
      significand * 2 ^ (exponent.toNat + 53) := by
    rw [hn', Nat.shiftLeft_eq, Int.toNat_zero, pow_zero, mul_one, mul_assoc, ← pow_add]
    rfl
  have hexponent' : -(Format.binary64.mantissaBits : ℤ) + 0 =
      exponent - ((exponent.toNat + 53 : ℕ) : ℤ) := by
    rw [hmantissa]
    omega
  unfold UnpackedFloat.ofScientific
  rw [dif_neg (hsame.pos hpos).ne', if_neg (by decide), if_neg hroom, if_pos (le_refl 0),
    ← hexact, ← hsignificand, ← hexponent']
  rfl

/-- A whole number of up to 64 bits is converted without rounding if it has a floating-point
number. -/
theorem of_floatOfNat {n significand : ℕ} {exponent : ℤ} (hn : n < 2 ^ 64)
    (hpos : 0 < significand) (h : Canonical significand exponent)
    (hsame : Same n 0 significand exponent) :
    Binary.of (Float.ofNat n) = .finite false significand exponent := by
  have hunfold : Float.ofNat n = Float.ofScientific n false 0 := rfl
  rw [hunfold, Float.ofScientific]
  by_cases hsmall : n < 2 ^ 53
  · rw [dif_pos ⟨hsmall, Nat.zero_le 22⟩]
    have hone : Binary.of Float.exactlyRepresentablePowersOfTen[0] =
        .finite false (2 ^ 52) (0 - 52) := by decide +kernel
    have hconvert := of_toFloat hn hpos h hsame
    have hproduct := of_mul_powerOfTwo hpos hconvert hone (by rwa [add_zero])
    rw [add_zero] at hproduct
    exact hproduct
  · rw [dif_neg fun hboth => hsmall hboth.1]
    show Binary.of (packed (UnpackedFloat.ofScientific Format.binary64 n 0)) = _
    rw [ofScientific_exact (Nat.le_of_not_lt hsmall) hpos h hsame, of_packed_canonical hpos h]
    rfl

/-- A whole number of any size is converted without rounding if it has a floating-point number. -/
theorem of_ofNat {n significand : ℕ} {exponent : ℤ} (hpos : 0 < significand)
    (h : Canonical significand exponent) (hsame : Same n 0 significand exponent) :
    Binary.of (ofNat n) = .finite false significand exponent := by
  have hnpos : n ≠ 0 := (hsame.pos hpos).ne'
  unfold ofNat
  dsimp only
  by_cases hspare : n.log2 - 63 = 0
  · rw [if_pos hspare]
    refine of_floatOfNat ?_ hpos h hsame
    have hlog : n.log2 < 64 := by omega
    exact (Nat.log2_lt hnpos).mp hlog
  · rw [if_neg hspare]
    have hlarge : 2 ^ 64 ≤ n := (Nat.le_log2 hnpos).mp (by omega)
    obtain ⟨hexponent, hn⟩ := hsame.eq_mul h (by omega)
    have hfull : 2 ^ 52 ≤ significand := h.full.resolve_left (by omega)
    have hlog : n.log2 = 52 + exponent.toNat := by
      have hlog : significand.log2 = 52 := (Nat.log2_eq_iff (by omega)).mpr ⟨hfull, h.lt⟩
      rw [hn, log2_mul_two_pow hpos.ne', hlog]
    -- eleven zeros stay with the significand, and the others are multiplied back
    obtain ⟨spare, hspare'⟩ : ∃ spare, n.log2 - 63 = spare := ⟨_, rfl⟩
    have hzeros : exponent.toNat = 11 + spare := by omega
    have hsplit : n = significand * 2 ^ 11 * Nat.pow 2 spare := by
      rw [hn, hzeros, pow_add, mul_assoc]
      rfl
    have hpower : 0 < Nat.pow 2 spare := Nat.two_pow_pos spare
    have hmost := h.le_most
    rw [hspare', if_pos (by omega), hsplit, Nat.mul_mod_left, if_pos rfl,
      Nat.mul_div_cancel _ hpower]
    have hcanonical : Canonical significand 11 := ⟨h.lt, by omega, by omega, .inr hfull⟩
    have hleading :
        Binary.of (Float.ofNat (significand * 2 ^ 11)) = .finite false significand 11 := by
      refine of_floatOfNat ?_ hpos hcanonical ?_
      · have hlt := h.lt
        omega
      · rw [Same]
        simp
    have hsum : (11 : ℤ) + spare = exponent := by omega
    have hpower' := of_powerOfTwo (n := spare) (by omega)
    have hproduct := of_mul_powerOfTwo hpos hleading hpower' (by rwa [hsum])
    rwa [hsum] at hproduct

end CardTalk.Binary

namespace CardTalk.Number

open Float.Model

variable {x y z : Float} {a b : ℚ}

theorem value?_neg (hx : value? x = some a) : value? (-x) = some (-a) :=
  (Binary.denotes_unpack hx).neg.packed

/-- A sum that is a floating-point number is computed without rounding. -/
theorem value?_add (hx : value? x = some a) (hy : value? y = some b)
    (hz : value? z = some (a + b)) : value? (x + y) = some (a + b) :=
  (Binary.denotes_unpack hx).add (Binary.denotes_unpack hy) hz

/-- A difference that is a floating-point number is computed without rounding. -/
theorem value?_sub (hx : value? x = some a) (hy : value? y = some b)
    (hz : value? z = some (a - b)) : value? (x - y) = some (a - b) := by
  have hsub : x - y = Binary.packed
      (UnpackedFloat.sub Format.binary64 x.toModel.unpack y.toModel.unpack) := rfl
  rw [hsub, Binary.unpacked_sub_eq, sub_eq_add_neg]
  rw [sub_eq_add_neg] at hz
  exact (Binary.denotes_unpack hx).add (Binary.denotes_unpack hy).neg hz

theorem isInf_of_value? (hx : value? x = some a) : x.isInf = false := by
  have hvalue := (Binary.denotes_unpack hx).value
  show x.toModel.unpack.isInf = false
  cases hu : x.toModel.unpack with
  | infinity =>
      rw [hu] at hvalue
      exact nomatch hvalue
  | notANumber | zero | finite => rfl

/-- An integer that is a floating-point number is converted without rounding. -/
theorem value?_ofInt {n : ℤ} (hx : value? x = some (n : ℚ)) :
    ∃ y, Number.ofInt n = .ok y ∧ value? y = some (n : ℚ) := by
  have hsize : value? (Binary.ofNat n.natAbs) = some (n.natAbs : ℚ) := by
    rcases Nat.eq_zero_or_pos n.natAbs with hzero | hpos
    · have hof : Binary.of (Binary.ofNat 0) = .finite false 0 (-1074) := by decide +kernel
      rw [hzero, value?, hof]
      simp [Binary.value?, Binary.signed]
    · obtain ⟨negative', significand, exponent, -, hcanonical, hvalue⟩ := Binary.exists_canonical hx
      obtain ⟨negative, hn⟩ := Binary.exists_signed n
      rw [hn, ← mul_one (Int.cast _), ← zpow_zero 2] at hvalue
      obtain ⟨-, hsignificand, heq⟩ := Binary.signed_mul_eq hpos hvalue
      rw [value?, Binary.of_ofNat hsignificand hcanonical (Binary.same_of_value heq)]
      rw [zpow_zero, mul_one] at heq
      rw [heq]
      rfl
  have hvalue : value? (Binary.ofInt n) = some (n : ℚ) := by
    unfold Binary.ofInt
    by_cases hn : n < 0
    · rw [if_pos hn, value?_neg hsize, Nat.cast_natAbs, abs_of_neg hn, Int.cast_neg, neg_neg]
    · rw [if_neg hn, hsize, Nat.cast_natAbs, abs_of_nonneg (not_lt.mp hn)]
  refine ⟨Binary.ofInt n, ?_, hvalue⟩
  unfold Number.ofInt
  dsimp only
  rw [isInf_of_value? hvalue]
  rfl

/-- A whole number is its whole part. -/
theorem value?_of_isWhole {n : ℤ} (hwhole : isWhole x) (hn : truncate x = .ok n) :
    value? x = some (n : ℚ) := by
  unfold isWhole at hwhole
  unfold truncate at hn
  unfold value?
  cases hx : Binary.of x with
  | finite negative significand exponent =>
      rw [hx] at hwhole hn
      obtain rfl := Except.ok.inj hn
      have hsize : (significand : ℚ) * 2 ^ exponent = Binary.wholePart significand exponent :=
        Binary.eq_wholePart hwhole
      cases negative with
      | false => simpa [Binary.value?, Binary.signed] using hsize
      | true => simpa [Binary.value?, Binary.signed] using hsize
  | infinite | undefined =>
      rw [hx] at hwhole
      exact absurd hwhole Bool.false_ne_true

theorem text_of_zero {negative : Bool} {exponent : ℤ}
    (h : Binary.of x = .finite negative 0 exponent) : text x = "0" := by
  have hwhole : Binary.isWhole 0 exponent = true := by
    unfold Binary.isWhole
    split
    · rw [Nat.zero_mod]
      rfl
    · rfl
  have hpart : Binary.wholePart 0 exponent = 0 := by
    unfold Binary.wholePart
    split
    · exact Nat.zero_div _
    · exact Nat.zero_mul _
  have hsigned : Binary.signed negative 0 = 0 := by cases negative <;> rfl
  unfold text
  rw [h]
  dsimp only
  rw [hwhole, hpart, hsigned]
  rfl

/-- A number is written by its value alone. -/
theorem text_of_value? (hx : value? x = some a) (hy : value? y = some a) : text x = text y := by
  obtain ⟨negative, m, e, hof, hform, ha⟩ := Binary.exists_canonical hx
  obtain ⟨negative', k, f, hof', hform', ha'⟩ := Binary.exists_canonical hy
  rw [ha] at ha'
  rcases Nat.eq_zero_or_pos m with rfl | hm
  · rcases Nat.eq_zero_or_pos k with rfl | hk
    · rw [text_of_zero hof, text_of_zero hof']
    · exact absurd (Binary.signed_mul_eq hk ha'.symm).2.1 (Nat.lt_irrefl 0)
  · obtain ⟨rfl, hk, heq⟩ := Binary.signed_mul_eq hm ha'
    obtain ⟨rfl, rfl⟩ := (Binary.same_of_value heq).unique hm hk hform hform'
    unfold text Layout.text Layout.textWith
    rw [hof, hof']

end CardTalk.Number
