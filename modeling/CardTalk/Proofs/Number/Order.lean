/-
The order of the numbers that texts are read as.

A number that is read off a text is never the undefined one: it is made by multiplying or
dividing by a number that is neither zero nor infinite, and that leads out of the numbers only
from the undefined one.  All other floating-point numbers have places in one linear order, with
one place for the two zeros, and comparing them compares the places.
-/
import CardTalk.Number.Reading
import CardTalk.Proofs.Number.Binary
import Mathlib.Data.Prod.Lex

namespace CardTalk.Number

open Float.Model

/-! ### Places -/

/-- Where a number stands among all the others: the infinities at the ends, zero in the middle,
and between them the finite numbers of either sign, by exponent and then by significand. -/
def placeOf : UnpackedFloat → ℤ ×ₗ ℤ ×ₗ ℤ
  | .infinity sign => toLex (sign.apply 2, toLex (0, 0))
  | .finite sign significand exponent _ =>
    toLex (sign.apply 1, toLex (sign.apply exponent, sign.apply significand))
  | .zero _ | .notANumber => toLex (0, toLex (0, 0))

theorem compare_toLex (a b c a' b' c' : ℤ) :
    compare (toLex (a, toLex (b, c)) : ℤ ×ₗ ℤ ×ₗ ℤ) (toLex (a', toLex (b', c'))) =
      (compare a a').then ((compare b b').then (compare c c')) := by
  simp [Prod.Lex.compare_def, compareLex, compareOn]

/-- Comparing two numbers compares their places. -/
theorem compare_eq_compare_placeOf {u v : UnpackedFloat} (hu : u.isNaN = false)
    (hv : v.isNaN = false) : u.compare v = some (compare (placeOf u) (placeOf v)) := by
  have hneg : ∀ a b : ℤ, compare (-a) (-b) = (compare a b).swap := fun a b => by
    rw [Int.compare_swap]
    simp only [Int.compare_eq_ite_lt, Int.neg_lt_neg_iff]
  have hcast : ∀ a b : ℕ, compare (a : ℤ) b = compare a b := fun a b => by
    simp only [Int.compare_eq_ite_lt, Nat.compare_eq_ite_lt, Int.ofNat_lt]
  rcases u with s | _ | s | ⟨s, m, e, hm⟩
  case notANumber => exact nomatch (show true = false from hu)
  case infinity =>
    rcases v with s' | _ | s' | ⟨s', m', e', hm'⟩
    · cases s <;> cases s' <;> rfl
    · exact nomatch (show true = false from hv)
    · cases s <;> rfl
    · cases s <;> cases s' <;> rfl
  case zero =>
    rcases v with s' | _ | s' | ⟨s', m', e', hm'⟩
    · cases s' <;> rfl
    · exact nomatch (show true = false from hv)
    · rfl
    · cases s' <;> rfl
  case finite =>
    rcases v with s' | _ | s' | ⟨s', m', e', hm'⟩
    · cases s <;> cases s' <;> rfl
    · exact nomatch (show true = false from hv)
    · cases s <;> rfl
    · rw [placeOf, placeOf, compare_toLex]
      cases s <;> cases s'
      · show some ((compare e e').then (compare m m')).swap =
          some ((compare (-e) (-e')).then (compare (-m : ℤ) (-m')))
        rw [hneg, hneg, hcast, Ordering.swap_then]
      · rfl
      · rfl
      · show some ((compare e e').then (compare m m')) =
          some ((compare e e').then (compare (m : ℤ) m'))
        rw [hcast]

/-- The place of a floating-point number. -/
def place (x : Float) : ℤ ×ₗ ℤ ×ₗ ℤ := placeOf x.toModel.unpack

theorem isNaN_unpack {x : Float} (h : Binary.of x ≠ .undefined) :
    x.toModel.unpack.isNaN = false := by
  rw [Binary.of_eq] at h
  cases hu : x.toModel.unpack with
  | notANumber => exact absurd (by rw [hu]; rfl) h
  | infinity | zero | finite => rfl

section

variable {x y : Float} (hx : Binary.of x ≠ .undefined) (hy : Binary.of y ≠ .undefined)
include hx hy

theorem lt_iff : x < y ↔ place x < place y := by
  have hlt : x < y ↔ (x.toModel.unpack.compare y.toModel.unpack == some .lt) = true :=
    decide_eq_true_iff
  rw [hlt, compare_eq_compare_placeOf (isNaN_unpack hx) (isNaN_unpack hy), beq_iff_eq,
    Option.some_inj, compare_lt_iff_lt]
  rfl

theorem beq_iff : (x == y) = true ↔ place x = place y := by
  have hbeq : (x == y) = (x.toModel.unpack.compare y.toModel.unpack == some .eq) := rfl
  rw [hbeq, compare_eq_compare_placeOf (isNaN_unpack hx) (isNaN_unpack hy), beq_iff_eq,
    Option.some_inj, compare_eq_iff_eq]
  rfl

end

/-! ### Numbers that are read -/

/-- Whether a number is neither zero nor infinite, nor the undefined one. -/
def isFactor (x : Float) : Bool :=
  match Binary.of x with
  | .finite _ significand _ => significand != 0
  | _ => false

theorem unpack_of_isFactor {x : Float} (h : isFactor x) :
    ∃ sign significand exponent, ∃ hpos : 0 < significand,
      x.toModel.unpack = .finite sign significand exponent hpos := by
  unfold isFactor at h
  rw [Binary.of_eq] at h
  cases hu : x.toModel.unpack with
  | finite sign significand exponent hpos => exact ⟨sign, significand, exponent, hpos, rfl⟩
  | infinity | notANumber | zero =>
      rw [hu] at h
      exact nomatch h

theorem isNaN_roundWithAccuracy (sign : UnpackedFloat.Sign) (significand : ℕ) (exponent : ℤ)
    (accuracy : UnpackedFloat.Accuracy) :
    (UnpackedFloat.roundWithAccuracy Format.binary64 sign significand exponent accuracy).isNaN =
      false := by
  unfold UnpackedFloat.roundWithAccuracy
  dsimp only
  split <;> rfl

section

variable {u : UnpackedFloat} (hu : u.isNaN = false) (sign : UnpackedFloat.Sign) {significand : ℕ}
  (exponent : ℤ) (hpos : 0 < significand)
include hu

theorem isNaN_mul :
    (UnpackedFloat.mul Format.binary64 u (.finite sign significand exponent hpos)).isNaN =
      false := by
  cases u with
  | notANumber => exact hu
  | infinity | zero => rfl
  | finite => exact isNaN_roundWithAccuracy _ _ _ _

theorem isNaN_div :
    (UnpackedFloat.div Format.binary64 u (.finite sign significand exponent hpos)).isNaN =
      false := by
  cases u with
  | notANumber => exact hu
  | infinity | zero => rfl
  | finite => exact isNaN_roundWithAccuracy _ _ _ _

end

section

variable {x y : Float} (hx : Binary.of x ≠ .undefined)
include hx

theorem mul_ne_undefined (hy : isFactor y) : Binary.of (x * y) ≠ .undefined := by
  obtain ⟨sign, significand, exponent, hpos, hy⟩ := unpack_of_isFactor hy
  have hproduct : x * y = Binary.packed
      (UnpackedFloat.mul Format.binary64 x.toModel.unpack y.toModel.unpack) := rfl
  rw [hproduct, hy]
  exact Binary.of_packed_ne_undefined (isNaN_mul (isNaN_unpack hx) sign exponent hpos)

theorem div_ne_undefined (hy : isFactor y) : Binary.of (x / y) ≠ .undefined := by
  obtain ⟨sign, significand, exponent, hpos, hy⟩ := unpack_of_isFactor hy
  have hquotient : x / y = Binary.packed
      (UnpackedFloat.div Format.binary64 x.toModel.unpack y.toModel.unpack) := rfl
  rw [hquotient, hy]
  exact Binary.of_packed_ne_undefined (isNaN_div (isNaN_unpack hx) sign exponent hpos)

theorem neg_ne_undefined : Binary.of (-x) ≠ .undefined := by
  have hneg : -x = Binary.packed x.toModel.unpack.neg := rfl
  rw [hneg]
  have hnumber := isNaN_unpack hx
  refine Binary.of_packed_ne_undefined ?_
  generalize x.toModel.unpack = u at hnumber
  cases u with
  | notANumber => exact hnumber
  | infinity | zero | finite => rfl

end

/-- The powers of ten that a number may be multiplied with. -/
theorem isFactor_exactlyRepresentablePowersOfTen :
    ∀ e : Fin 23, isFactor (Float.exactlyRepresentablePowersOfTen[e]) := by
  decide +kernel

theorem isFactor_powerOfTwo {n : ℕ} (h : n < 1024) : isFactor (Binary.powerOfTwo n) := by
  rw [isFactor, Binary.of_powerOfTwo h]
  rfl

theorem toFloat_ne_undefined (n : UInt64) : Binary.of n.toFloat ≠ .undefined := by
  have hof : n.toFloat =
      Binary.packed (UnpackedFloat.normalize Format.binary64 n.toNat 0 .positive) := rfl
  rw [hof]
  refine Binary.of_packed_ne_undefined ?_
  unfold UnpackedFloat.normalize
  split
  · exact isNaN_roundWithAccuracy _ _ _ _
  · rfl
  · exact isNaN_roundWithAccuracy _ _ _ _

theorem isNaN_ofScientific (m : ℕ) (e : ℤ) :
    (UnpackedFloat.ofScientific Format.binary64 m e).isNaN = false := by
  unfold UnpackedFloat.ofScientific
  by_cases hzero : m = 0
  · rw [dif_pos hzero]
    rfl
  · rw [dif_neg hzero]
    split
    · rfl
    · split
      · rfl
      · split
        · exact isNaN_mul (u := .finite ..) rfl _ _ _
        · exact isNaN_div (u := .finite ..) rfl _ _ _

theorem ofScientific_ne_undefined (m : ℕ) (negative : Bool) (e : ℕ) :
    Binary.of (Float.ofScientific m negative e) ≠ .undefined := by
  unfold Float.ofScientific
  split
  · rename_i h
    have hpower := isFactor_exactlyRepresentablePowersOfTen ⟨e, Nat.lt_succ_of_le h.2⟩
    dsimp only
    split
    · exact div_ne_undefined (toFloat_ne_undefined _) hpower
    · exact mul_ne_undefined (toFloat_ne_undefined _) hpower
  · exact Binary.of_packed_ne_undefined (isNaN_ofScientific m _)

theorem ofNat_ne_undefined (n : ℕ) : Binary.of (Binary.ofNat n) ≠ .undefined := by
  unfold Binary.ofNat
  dsimp only
  split
  · exact ofScientific_ne_undefined _ _ _
  · split
    · exact mul_ne_undefined (ofScientific_ne_undefined _ _ _) (isFactor_powerOfTwo (by omega))
    · decide +kernel

theorem ofDecimal_ne_undefined (significand : ℕ) (exponent : ℤ) :
    Binary.of (Binary.ofDecimal significand exponent) ≠ .undefined := by
  unfold Binary.ofDecimal
  split
  · exact ofScientific_ne_undefined _ _ _
  · split
    · decide +kernel
    · split
      · decide +kernel
      · exact ofNat_ne_undefined _

/-- A number that is read off a text is a number. -/
theorem leading_ne_undefined {t : Text} {x : Float} (h : leading? t = some x) :
    Binary.of x ≠ .undefined := by
  obtain ⟨⟨n, rest⟩, -, rfl⟩ := Option.map_eq_some_iff.mp h
  show Binary.of n.toFloat ≠ .undefined
  unfold Numeral.toFloat
  dsimp only
  split
  · exact neg_ne_undefined (ofDecimal_ne_undefined _ _)
  · exact ofDecimal_ne_undefined _ _

end CardTalk.Number
