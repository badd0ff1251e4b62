/-
The bits of a floating-point number and the number they stand for.

The operations on floating-point numbers take their operands apart into sign, significand and
exponent, compute on these, and put the result together again.  `Binary.of` reads the same
parts off the bits: what an operation sees of a number is what `Binary.of` says of it (`of_eq`),
and a result that has a floating-point number of its own is what `Binary.of` says of the
number that it is put into (`of_packed`).  The operations can so be followed on `Binary`, without
any bits.
-/
import CardTalk.Number.Binary
import Mathlib

namespace CardTalk.Binary

open Float.Model

/-- What a number that is taken apart denotes. -/
def ofUnpacked : UnpackedFloat → Binary
  | .infinity sign => .infinite (sign == .negative)
  | .notANumber => .undefined
  | .zero sign => .finite (sign == .negative) 0 (-1074)
  | .finite sign significand exponent _ => .finite (sign == .negative) significand exponent

/-- What a number denotes whose bits are a sign, an exponent and a fraction. -/
def ofFields (negative : Bool) (exponent fraction : Nat) : Binary :=
  if exponent = 2047 then if fraction = 0 then .infinite negative else .undefined
  else if exponent = 0 then .finite negative fraction (-1074)
  else .finite negative (2 ^ 52 + fraction) (exponent - 1075)

/-- What bits denote. -/
def ofBits (bits : BitVec 64) : Binary :=
  ofFields (bits.toNat / 2 ^ 63 == 1) (bits.toNat / 2 ^ 52 % 2 ^ 11) (bits.toNat % 2 ^ 52)

theorem of_toBits (x : Float) : Binary.of x = ofBits x.toBits.toBitVec := rfl

/-! ### Taking apart -/

/-- The sign in bits. -/
abbrev signOf (bits : BitVec 64) : UnpackedFloat.Sign :=
  .ofBitVec (@UnpackedFloat.unpackSign Format.binary64 bits)

/-- The exponent in bits. -/
abbrev exponentOf (bits : BitVec 64) : BitVec 11 := @UnpackedFloat.unpackExponent Format.binary64 bits

/-- The fraction in bits. -/
abbrev fractionOf (bits : BitVec 64) : BitVec 52 := @UnpackedFloat.unpackMantissa Format.binary64 bits

theorem toNat_packComponents (sign : UnpackedFloat.Sign) (exponent : BitVec 11)
    (fraction : BitVec 52) :
    (UnpackedFloat.packComponents Format.binary64 sign exponent fraction).toNat =
      (sign == .negative).toNat * 2 ^ 63 + exponent.toNat * 2 ^ 52 + fraction.toNat := by
  have hexponent := exponent.isLt
  have hfraction := fraction.isLt
  have hsign : sign.toBitVec.toNat = (sign == .negative).toNat := by cases sign <;> rfl
  unfold UnpackedFloat.packComponents
  rw [BitVec.toNat_append, BitVec.toNat_append, ← Nat.shiftLeft_add_eq_or_of_lt hfraction,
    ← Nat.shiftLeft_add_eq_or_of_lt hexponent, hsign]
  simp only [Nat.shiftLeft_eq]
  omega

/-- The fields can be read off the bits. -/
theorem ofBits_packComponents (sign : UnpackedFloat.Sign) (exponent : BitVec 11)
    (fraction : BitVec 52) :
    ofBits (UnpackedFloat.packComponents Format.binary64 sign exponent fraction) =
      ofFields (sign == .negative) exponent.toNat fraction.toNat := by
  have hexponent := exponent.isLt
  have hfraction := fraction.isLt
  rw [ofBits, toNat_packComponents]
  generalize (sign == .negative) = negative
  have hsign := Bool.toNat_le negative
  have hnegative : ((negative.toNat * 2 ^ 63 + exponent.toNat * 2 ^ 52 + fraction.toNat) / 2 ^ 63
      == 1) = negative := by
    rw [show (_ : Nat) / 2 ^ 63 = negative.toNat by omega]
    cases negative <;> rfl
  rw [hnegative]
  congr 1 <;> omega

theorem packComponents_unpack (bits : BitVec 64) :
    UnpackedFloat.packComponents Format.binary64 (signOf bits) (exponentOf bits)
      (fractionOf bits) = bits := by
  have hsign : ∀ sign : BitVec 1, (UnpackedFloat.Sign.ofBitVec sign).toBitVec = sign := by decide
  simp only [UnpackedFloat.packComponents, hsign, UnpackedFloat.unpackSign,
    UnpackedFloat.unpackExponent, UnpackedFloat.unpackMantissa, BitVec.extractLsb]
  ext i hi
  grind

/-- What the parts denote that bits are taken apart into is what the bits denote. -/
theorem ofUnpacked_unpack (bits : BitVec 64) :
    ofUnpacked (UnpackedFloat.unpack Format.binary64 bits) = ofBits bits := by
  have hfull : ∀ exponent : BitVec 11, exponent = -1#11 ↔ exponent.toNat = 2047 := fun _ =>
    BitVec.toNat_inj.symm
  have hleast : ∀ exponent : BitVec 11, exponent = 0#11 ↔ exponent.toNat = 0 := fun _ =>
    BitVec.toNat_inj.symm
  have hzero : ∀ fraction : BitVec 52, fraction = 0#52 ↔ fraction.toNat = 0 := fun _ =>
    BitVec.toNat_inj.symm
  have hfields := ofBits_packComponents (signOf bits) (exponentOf bits) (fractionOf bits)
  rw [packComponents_unpack] at hfields
  rw [hfields, ofFields]
  unfold UnpackedFloat.unpack
  dsimp only
  by_cases h : (exponentOf bits).toNat = 2047
  · rw [if_pos h, if_pos ((hfull _).mpr h)]
    by_cases h' : (fractionOf bits).toNat = 0
    · rw [if_pos h', if_pos ((hzero _).mpr h')]
      rfl
    · rw [if_neg h', if_neg (mt (hzero _).mp h')]
      rfl
  · rw [if_neg h, if_neg (mt (hfull _).mp h)]
    by_cases h' : (exponentOf bits).toNat = 0
    · rw [if_pos h', if_pos ((hleast _).mpr h')]
      by_cases h'' : (fractionOf bits).toNat = 0
      · rw [dif_pos ((hzero _).mpr h''), h'']
        rfl
      · rw [dif_neg (mt (hzero _).mp h''), h']
        rfl
    · rw [if_neg h', if_neg (mt (hleast _).mp h')]
      have hlead : (1#1 ++ fractionOf bits).toNat = 2 ^ 52 + (fractionOf bits).toNat := by
        rw [BitVec.toNat_append, ← Nat.shiftLeft_add_eq_or_of_lt (BitVec.isLt _)]
        rfl
      rw [← hlead]
      rfl

/-- What an operation sees of a number is what its bits say. -/
theorem of_eq (x : Float) : Binary.of x = ofUnpacked x.toModel.unpack := by
  rw [of_toBits, ← ofUnpacked_unpack]
  rfl

/-! ### Putting together -/

/-- The number that a result is put into. -/
def packed (u : UnpackedFloat) : Float := ⟨Float.Model.pack u⟩

/-- A significand and an exponent in the one form that a floating-point number has for them:
the significand has 53 bits, or fewer if the exponent is the least. -/
structure Canonical (significand : Nat) (exponent : Int) : Prop where
  lt : significand < 2 ^ 53
  least_le : -1074 ≤ exponent
  le_most : exponent ≤ 971
  full : exponent = -1074 ∨ 2 ^ 52 ≤ significand

theorem ofBits_canonical {bits : BitVec 64} {negative : Bool} {significand : Nat} {exponent : Int}
    (h : ofBits bits = .finite negative significand exponent) : Canonical significand exponent := by
  have hfraction : bits.toNat % 2 ^ 52 < 2 ^ 52 := Nat.mod_lt _ (by decide)
  have hexponent : bits.toNat / 2 ^ 52 % 2 ^ 11 < 2 ^ 11 := Nat.mod_lt _ (by decide)
  unfold ofBits ofFields at h
  split at h
  · split at h <;> exact nomatch h
  · split at h <;> cases h <;> constructor <;> omega

/-- A finite number has the one form for it. -/
theorem of_canonical {x : Float} {negative : Bool} {significand : Nat} {exponent : Int}
    (h : Binary.of x = .finite negative significand exponent) : Canonical significand exponent :=
  ofBits_canonical h

/-- What a number denotes that is put together: the exponent may be too large for one. -/
theorem of_packed (sign : UnpackedFloat.Sign) {significand : Nat} (exponent : Int)
    (hpos : 0 < significand) :
    Binary.of (packed (.finite sign significand exponent hpos)) =
      if 971 < exponent then .infinite (sign == .negative)
      else if significand.log2 = 52 then
        ofFields (sign == .negative) (exponent + 1075).toNat (significand % 2 ^ 52)
      else ofFields (sign == .negative) 0 (significand % 2 ^ 52) := by
  have hbits : Binary.of (packed (.finite sign significand exponent hpos)) =
      ofBits (UnpackedFloat.pack Format.binary64 (.finite sign significand exponent hpos)) := rfl
  have hbias : (exponent + (Format.binary64.exponentBias : Int) + ((52 : Nat) : Int)).toNat =
      (exponent + 1075).toNat := by
    rw [show (Format.binary64.exponentBias : Int) = 1023 from rfl]
    omega
  rw [hbits]
  unfold UnpackedFloat.pack
  dsimp only
  rw [hbias]
  by_cases hroom : 971 < exponent
  · rw [if_pos hroom, if_pos (by omega), UnpackedFloat.packedInfinity, ofBits_packComponents]
    rfl
  · rw [if_neg hroom, if_neg (by omega)]
    by_cases hlog : significand.log2 = 52
    · have hexponent : (exponent + 1075).toNat % 2 ^ 11 = (exponent + 1075).toNat := by omega
      rw [if_pos hlog, if_pos (by rw [hlog]; rfl), ofBits_packComponents, BitVec.toNat_ofNat,
        BitVec.toNat_ofNat, hexponent]
    · have hfull : ¬significand.log2 + 1 = Format.binary64.mantissaBits := fun h =>
        hlog (Nat.succ.inj h)
      rw [if_neg hlog, if_neg hfull, ofBits_packComponents, BitVec.toNat_ofNat]
      rfl

theorem ofFields_ne_undefined {negative : Bool} {exponent fraction : Nat} (h : exponent ≠ 2047) :
    ofFields negative exponent fraction ≠ .undefined := by
  unfold ofFields
  rw [if_neg h]
  split <;> exact nofun

/-- A number that is put together denotes nothing only if what is put together does not. -/
theorem of_packed_ne_undefined {u : UnpackedFloat} (h : u.isNaN = false) :
    Binary.of (packed u) ≠ .undefined := by
  cases u with
  | infinity sign => cases sign <;> decide
  | notANumber => exact nomatch (show true = false from h)
  | zero sign => cases sign <;> decide
  | finite sign significand exponent hpos =>
      rw [of_packed]
      by_cases hroom : 971 < exponent
      · rw [if_pos hroom]
        exact nofun
      · rw [if_neg hroom]
        split
        · exact ofFields_ne_undefined (by omega)
        · exact ofFields_ne_undefined (by decide)

theorem of_packed_zero (sign : UnpackedFloat.Sign) :
    Binary.of (packed (.zero sign)) = .finite (sign == .negative) 0 (-1074) := by
  cases sign <;> decide

/-- A number in the one form for it is what it is put together from. -/
theorem of_packed_canonical {sign : UnpackedFloat.Sign} {significand : Nat} {exponent : Int}
    (hpos : 0 < significand) (h : Canonical significand exponent) :
    Binary.of (packed (.finite sign significand exponent hpos)) =
      .finite (sign == .negative) significand exponent := by
  obtain ⟨hlt, hleast, hmost, hfull⟩ := h
  rw [of_packed, if_neg (by omega)]
  by_cases hbits : 2 ^ 52 ≤ significand
  · have hlog : significand.log2 = 52 := (Nat.log2_eq_iff (by omega)).mpr ⟨hbits, hlt⟩
    rw [if_pos hlog, ofFields, if_neg (by omega), if_neg (by omega)]
    congr 1 <;> omega
  · have hlog : significand.log2 < 52 := (Nat.log2_lt (by omega)).mpr (by omega)
    have hexponent : exponent = -1074 := by omega
    rw [if_neg (by omega), hexponent, Nat.mod_eq_of_lt (by omega)]
    rfl

/-- A number that is made of bits denotes what the bits do. -/
theorem of_ofBits (bits : UInt64) : Binary.of (Float.ofBits bits) = ofBits bits.toBitVec := by
  have hbits := ofUnpacked_unpack bits.toBitVec
  have hmade : Float.ofBits bits =
      packed (UnpackedFloat.unpack Format.binary64 bits.toBitVec) := rfl
  rw [hmade, ← hbits]
  cases hu : UnpackedFloat.unpack Format.binary64 bits.toBitVec with
  | infinity sign => cases sign <;> decide
  | notANumber => decide
  | zero sign => cases sign <;> decide
  | finite sign significand exponent hpos =>
      rw [hu] at hbits
      exact of_packed_canonical hpos (ofBits_canonical hbits.symm)

theorem of_powerOfTwo {n : Nat} (h : n < 1024) :
    Binary.of (powerOfTwo n) = .finite false (2 ^ 52) (n - 52) := by
  have hpow : Nat.pow 2 52 = 2 ^ 52 := rfl
  have hlt : (n + 1023) * 2 ^ 52 < 2 ^ 64 := by omega
  have hbits : (UInt64.ofNat ((n + 1023) * 2 ^ 52)).toBitVec.toNat = (n + 1023) * 2 ^ 52 := by
    rw [UInt64.toNat_toBitVec, UInt64.toNat_ofNat', Nat.mod_eq_of_lt hlt]
  have hsign : (n + 1023) * 2 ^ 52 / 2 ^ 63 = 0 := by omega
  have hexponent : (n + 1023) * 2 ^ 52 / 2 ^ 52 % 2 ^ 11 = n + 1023 := by omega
  have hfraction : (n + 1023) * 2 ^ 52 % 2 ^ 52 = 0 := by omega
  have hbias : ((n + 1023 : Nat) : Int) - 1075 = n - 52 := by omega
  rw [powerOfTwo, hpow, of_ofBits, ofBits, hbits, hsign, hexponent, hfraction, ofFields,
    if_neg (by omega), if_neg (by omega), hbias]
  rfl

end CardTalk.Binary
