/-
Whole numbers up to the ninth quadrillion.

A whole number below `2 ^ 53` in size is a floating-point number, and the operations on whole
numbers need no rounding as long as their result is one: sums and differences are treated in
`Proofs.Number.Rounding`, products here.  A script sees such a number as its decimal numeral
(`text_of_whole`), and the numeral is read back as the number (`value?_numberOrZero`).
-/
import CardTalk.Proofs.Number.Rounding
import CardTalk.Proofs.Text.Blank

namespace CardTalk

/-! ### Products -/

namespace Binary

open Float.Model

/-- A product that has a form ends in the zeros that the form does without. -/
theorem Same.exists_zeros {m m' k : ℕ} {e e' f : ℤ} (hm : 0 < m) (hm' : 0 < m')
    (h : Canonical m e) (h' : Canonical m' e') (hk : Canonical k f)
    (hsame : Same (m * m') (e + e') k f) :
    ∃ zeros : ℕ, m * m' = k * 2 ^ zeros ∧ e + e' = f - zeros := by
  by_cases hle : e + e' ≤ f
  · refine ⟨(f - (e + e')).toNat, ?_, by omega⟩
    rwa [Same, show (e + e' - f).toNat = 0 by omega, pow_zero, mul_one] at hsame
  · exfalso
    -- the product would have fewer bits than its form, so both factors have the least exponent
    have hleast := hk.least_le
    rw [Same, show (f - (e + e')).toNat = 0 by omega, pow_zero, mul_one,
      show (e + e' - f).toNat = (e + e' - f).toNat - 1 + 1 by omega, pow_succ'] at hsame
    have hpower := Nat.two_pow_pos ((e + e' - f).toNat - 1)
    have hsmall : m * m' < 2 ^ 52 := by
      have hlt := hk.lt
      have hle : m * m' * 2 ≤ k := by
        rw [← hsame, ← mul_assoc]
        exact Nat.le_mul_of_pos_right _ hpower
      omega
    have hfull : ¬2 ^ 52 ≤ m := fun hm => by
      have hle := Nat.le_mul_of_pos_right m hm'
      omega
    have hfull' : ¬2 ^ 52 ≤ m' := fun hm' => by
      have hle := Nat.le_mul_of_pos_left m' hm
      omega
    have hexponent := h.full.resolve_right hfull
    have hexponent' := h'.full.resolve_right hfull'
    omega

theorem signed_mul (s s' : UnpackedFloat.Sign) (m m' : ℕ) :
    signed (s * s' == .negative) (m * m') =
      signed (s == .negative) m * signed (s' == .negative) m' := by
  have hsigns : (s * s' == .negative) = ((s == .negative) != (s' == .negative)) := by
    cases s <;> cases s' <;> rfl
  rw [hsigns]
  generalize (s == .negative) = negative
  generalize (s' == .negative) = negative'
  cases negative <;> cases negative' <;> simp [signed]

/-- A product that is the value of a floating-point number is computed without rounding. -/
theorem Denotes.mul {u v : UnpackedFloat} {a b : ℚ} (hu : Denotes u a) (hv : Denotes v b)
    {x : Float} (h : (Binary.of x).value? = some (a * b)) :
    (Binary.of (Binary.packed (UnpackedFloat.mul Format.binary64 u v))).value? =
      some (a * b) := by
  have hzero : ∀ s : UnpackedFloat.Sign, (Binary.of (Binary.packed (.zero s))).value? = some 0 := by
    intro s
    rw [of_packed_zero]
    cases s <;> simp [value?, signed]
  cases u with
  | infinity | notANumber => cases hu.value
  | zero s =>
      obtain rfl := hu.zero
      rw [zero_mul]
      cases v with
      | infinity | notANumber => cases hv.value
      | zero s' | finite s' m' e' hm' => exact hzero (s * s')
  | finite s m e hm =>
      cases v with
      | infinity | notANumber => cases hv.value
      | zero s' =>
          obtain rfl := hv.zero
          rw [mul_zero]
          exact hzero (s * s')
      | finite s' m' e' hm' =>
          have ha : _ = a := Option.some.inj hu.value
          have hb : _ = b := Option.some.inj hv.value
          have hproduct : a * b = signed (s * s' == .negative) (m * m') * 2 ^ (e + e') := by
            rw [← ha, ← hb, signed_mul, zpow_add₀ two_ne_zero]
            push_cast
            ring
          obtain ⟨negative, k, f, -, hform, hvalue⟩ := exists_canonical h
          rw [hproduct] at hvalue
          obtain ⟨-, hk, heq⟩ := signed_mul_eq (Nat.mul_pos hm hm') hvalue
          obtain ⟨zeros, hmul, hexponent⟩ := (same_of_value heq).exists_zeros hm hm'
            (hu.canonical rfl) (hv.canonical rfl) hform
          show (Binary.of (Binary.packed (UnpackedFloat.roundWithAccuracy Format.binary64 (s * s')
            (m * m') (e + e') .exact))).value? = _
          rw [hproduct, hmul, hexponent, roundWithAccuracy_exact _ hk hform,
            of_packed_canonical hk hform, ← hexponent, ← hmul]
          rw [value?, Option.some_inj]
          have hsigned : ∀ negative : Bool, ∀ n : ℕ, ∀ e : ℤ, (signed negative n : ℚ) * 2 ^ e =
              (if negative then -1 else 1) * ((n : ℚ) * 2 ^ e) := by
            intro negative n e
            cases negative <;> simp [signed]
          rw [hsigned, hsigned, heq]

end Binary

namespace Number

variable {x y z : Float} {a b : ℚ}

/-- A product that is a floating-point number is computed without rounding. -/
theorem value?_mul (hx : value? x = some a) (hy : value? y = some b)
    (hz : value? z = some (a * b)) : value? (x * y) = some (a * b) :=
  (Binary.denotes_unpack hx).mul (Binary.denotes_unpack hy) hz

/-! ### Whole numbers as floating-point numbers -/

/-- The whole numbers that all are floating-point numbers. -/
def IsExact (n : ℤ) : Prop := n.natAbs < 2 ^ 53

instance (n : ℤ) : Decidable (IsExact n) := inferInstanceAs (Decidable (_ < _))

/-- A positive whole number in the form that a floating-point number has for it. -/
theorem canonical_of_lt {n : ℕ} (hpos : 0 < n) (hn : n < 2 ^ 53) :
    Binary.Canonical (n * 2 ^ (52 - n.log2)) (n.log2 - 52) := by
  have hlog : n.log2 < 53 := (Nat.log2_lt hpos.ne').mpr hn
  have hlog' : (n * 2 ^ (52 - n.log2)).log2 = 52 := by
    rw [Binary.log2_mul_two_pow hpos.ne']
    omega
  have hne : n * 2 ^ (52 - n.log2) ≠ 0 := Nat.mul_ne_zero hpos.ne' (Nat.two_pow_pos _).ne'
  obtain ⟨hfull, hlt⟩ := (Nat.log2_eq_iff hne).mp hlog'
  exact ⟨hlt, by omega, by omega, .inr hfull⟩

/-- A natural number is converted without rounding. -/
theorem value?_ofNat {n : ℕ} (hn : n < 2 ^ 53) : value? (Binary.ofNat n) = some (n : ℚ) := by
  rcases Nat.eq_zero_or_pos n with rfl | hpos
  · have hof : Binary.of (Binary.ofNat 0) = .finite false 0 (-1074) := by decide +kernel
    rw [value?, hof]
    simp [Binary.value?, Binary.signed]
  · have hlog : n.log2 < 53 := (Nat.log2_lt hpos.ne').mpr hn
    have hvalue : (n : ℚ) * 2 ^ (0 : ℤ) =
        ((n * 2 ^ (52 - n.log2) : ℕ) : ℚ) * 2 ^ ((n.log2 : ℤ) - 52) := by
      push_cast
      rw [mul_one, mul_assoc, ← zpow_natCast, ← zpow_add₀ two_ne_zero,
        show ((52 - n.log2 : ℕ) : ℤ) + ((n.log2 : ℤ) - 52) = 0 by omega, zpow_zero, mul_one]
    have hsignificand := Nat.mul_pos hpos (Nat.two_pow_pos (52 - n.log2))
    rw [value?, Binary.of_ofNat hsignificand (canonical_of_lt hpos hn)
      (Binary.same_of_value hvalue)]
    rw [zpow_zero, mul_one] at hvalue
    rw [hvalue]
    rfl

theorem exists_value? {n : ℤ} (hn : IsExact n) : ∃ x, value? x = some (n : ℚ) := by
  have hsize := value?_ofNat hn
  rw [Nat.cast_natAbs] at hsize
  rcases le_total 0 n with hpos | hneg
  · exact ⟨_, by rwa [abs_of_nonneg hpos] at hsize⟩
  · refine ⟨_, (value?_neg hsize).trans ?_⟩
    rw [abs_of_nonpos hneg, Int.cast_neg, neg_neg]

/-! ### Numerals -/

end Number

namespace Text

theorem digitValue?_digitChar {d : ℕ} (h : d < 10) : digitValue? d.digitChar = some d := by
  have hall : ∀ d : Fin 10, digitValue? (d : ℕ).digitChar = some (d : ℕ) := by decide
  exact hall ⟨d, h⟩

theorem isDecimal_digitChar {d : ℕ} (h : d < 10) : isDecimal d.digitChar := by
  rw [isDecimal, digitValue?_digitChar h]
  rfl

/-- Every character of a numeral is a digit. -/
theorem isDecimal_of_mem_ofNat (n : ℕ) : ∀ c ∈ ofNat n, isDecimal c := by
  induction n using Nat.strongRecOn with
  | ind n ih =>
      intro c hc
      rw [ofNat, Nat.toDigits_eq_if (by decide)] at hc
      split at hc
      · rename_i hn
        exact List.mem_singleton.mp hc ▸ isDecimal_digitChar hn
      · rcases List.mem_append.mp hc with hc | hc
        · exact ih (n / 10) (by omega) c hc
        · exact List.mem_singleton.mp hc ▸ isDecimal_digitChar (Nat.mod_lt n (by decide))

theorem ofNat_ne_nil (n : ℕ) : ofNat n ≠ [] := Nat.toDigits_ne_nil

/-- Digits that are taken one by one after others. -/
theorem natOfDigitsWith_zero_append (t u : Text) :
    natOfDigitsWith 0 (t ++ u) = natOfDigitsWith 0 t * 10 ^ u.length + natOfDigitsWith 0 u := by
  have hafter : ∀ n, u.foldl (fun n c => 10 * n + (digitValue? c).getD 0) n =
      n * 10 ^ u.length + natOfDigitsWith 0 u := by
    rw [natOfDigitsWith]
    induction u with
    | nil => simp
    | cons c u ih =>
        intro n
        rw [List.foldl_cons, List.foldl_cons, ih, ih (10 * 0 + _), List.length_cons]
        ring
  rw [natOfDigitsWith, List.foldl_append, hafter, ← natOfDigitsWith]

/-- Cutting a run of digits into halves makes no difference. -/
theorem natOfDigitsWith_eq (halvings : ℕ) (t : Text) :
    natOfDigitsWith halvings t = natOfDigitsWith 0 t := by
  induction halvings generalizing t with
  | zero => rfl
  | succ halvings ih =>
      have hsplit := natOfDigitsWith_zero_append (t.take (t.length - t.length / 2))
        (t.drop (t.length - t.length / 2))
      rw [List.take_append_drop, List.length_drop,
        show t.length - (t.length - t.length / 2) = t.length / 2 by omega] at hsplit
      show natOfDigitsWith halvings (t.take (t.length - t.length / 2)) * 10 ^ (t.length / 2) +
        natOfDigitsWith halvings (t.drop (t.length - t.length / 2)) = _
      rw [ih, ih, hsplit]

theorem natOfDigits_append (t u : Text) :
    natOfDigits (t ++ u) = natOfDigits t * 10 ^ u.length + natOfDigits u := by
  simp only [natOfDigits, natOfDigitsWith_eq (_ - _)]
  exact natOfDigitsWith_zero_append t u

/-- Zeros before a run of digits make no difference. -/
theorem natOfDigits_dropWhile (t : Text) :
    natOfDigits (t.dropWhile fun c => digitValue? c == some 0) = natOfDigits t := by
  simp only [natOfDigits, natOfDigitsWith_eq (_ - _)]
  induction t with
  | nil => rfl
  | cons c t ih =>
      rw [List.dropWhile_cons]
      split
      · rename_i hc
        rw [ih, natOfDigitsWith, natOfDigitsWith, List.foldl_cons, beq_iff_eq.mp hc]
        rfl
      · rfl

/-- A numeral denotes its number. -/
theorem natOfDigits_ofNat (n : ℕ) : natOfDigits (ofNat n) = n := by
  have hdigit : ∀ d < 10, natOfDigits [d.digitChar] = d := fun d hd => by
    rw [natOfDigits, natOfDigitsWith_eq, natOfDigitsWith, List.foldl_cons, digitValue?_digitChar hd]
    exact Nat.zero_add d
  induction n using Nat.strongRecOn with
  | ind n ih =>
      rw [ofNat, Nat.toDigits_eq_if (by decide)]
      split
      · rename_i hn
        exact hdigit n hn
      · have hlast := hdigit (n % 10) (Nat.mod_lt n (by decide))
        have hrest := ih (n / 10) (by omega)
        rw [ofNat] at hrest
        rw [natOfDigits_append, hlast, hrest, List.length_singleton, pow_one]
        omega

end Text

namespace Number

open Text

/-- A numeral is read whole. -/
theorem readPlaces_ofNat (n : ℕ) : readPlaces (Text.ofNat n) = some (Text.ofNat n, [], []) := by
  have htake : (Text.ofNat n).takeWhile isDecimal = Text.ofNat n :=
    List.takeWhile_eq_self_iff.mpr (isDecimal_of_mem_ofNat n)
  have hdrop : (Text.ofNat n).dropWhile isDecimal = [] :=
    List.dropWhile_eq_nil_iff.mpr (isDecimal_of_mem_ofNat n)
  have hsome : (Text.ofNat n).isEmpty = false := by simp [ofNat_ne_nil n]
  rw [readPlaces, readDigits, htake, hdrop]
  dsimp only
  rw [hsome, if_neg Bool.false_ne_true]

/-- A numeral begins with a digit, and so with no blank and no sign. -/
theorem readSign_ofNat (n : ℕ) : readSign (trimStart (Text.ofNat n)) = (false, Text.ofNat n) := by
  have hdigits := isDecimal_of_mem_ofNat n
  cases hn : Text.ofNat n with
  | nil => exact absurd hn (ofNat_ne_nil n)
  | cons c t =>
      have hc : isDecimal c := hdigits c (hn ▸ List.mem_cons_self)
      have hblank : ¬isBlank c := fun hblank =>
        Text.forall_isBlank (P := fun c => ¬isDecimal c) (by decide +kernel) hblank hc
      have hminus : c ≠ '-' := by
        rintro rfl
        exact absurd hc (by decide)
      have hplus : c ≠ '+' := by
        rintro rfl
        exact absurd hc (by decide)
      rw [trimStart, List.dropWhile_cons_of_neg hblank]
      unfold readSign
      split
      · exact absurd (List.cons.inj ‹_›).1 hminus
      · exact absurd (List.cons.inj ‹_›).1 hplus
      · rfl

/-- The number that a numeral with few digits is read as. -/
theorem value?_toFloat {n : ℕ} (hn : n < 2 ^ 53) (negative : Bool) :
    value? (Numeral.toFloat ⟨negative, Text.ofNat n, [], false, []⟩) =
      some (Binary.signed negative n : ℚ) := by
  have hshort : (Text.ofNat n).length ≤ 16 :=
    (Nat.length_toDigits_le_iff (by decide) (by decide)).mpr (hn.trans (by decide))
  have hcut : cutShort ((Text.ofNat n).dropWhile fun c => digitValue? c == some 0) =
      ((Text.ofNat n).dropWhile fun c => digitValue? c == some 0, 0) := by
    have hlength := (List.dropWhile_suffix (fun c => digitValue? c == some 0)
      (l := Text.ofNat n)).length_le
    rw [cutShort]
    dsimp only
    rw [List.drop_eq_nil_of_le (hlength.trans (hshort.trans (by decide)))]
    rfl
  have hsize : Binary.ofDecimal n 0 = Binary.ofNat n := by
    rw [Binary.ofDecimal, if_neg (by decide)]
    by_cases hzero : n = 0
    · subst hzero
      rfl
    · rw [if_neg hzero, if_neg (by decide)]
      congr 1
      exact Nat.mul_one n
  have hvalue := value?_ofNat hn
  rw [Numeral.toFloat]
  dsimp only
  rw [List.append_nil, hcut]
  dsimp only
  rw [natOfDigits_dropWhile, natOfDigits_ofNat]
  show value? (if negative then -Binary.ofDecimal n 0 else Binary.ofDecimal n 0) = _
  rw [hsize]
  cases negative with
  | false => exact hvalue
  | true => simpa [Binary.signed] using value?_neg hvalue

theorem leading?_numeral {t : Text} {negative : Bool} {n : ℕ}
    (hsign : readSign (trimStart t) = (negative, Text.ofNat n)) :
    leading? t = some (Numeral.toFloat ⟨negative, Text.ofNat n, [], false, []⟩) := by
  rw [leading?, read?, hsign]
  dsimp only
  rw [readPlaces_ofNat]
  rfl

/-- **The numeral of a whole number is read as the number.** -/
theorem value?_numberOrZero {n : ℤ} (hn : IsExact n) :
    value? (numberOrZero (Text.ofInt n)) = some (n : ℚ) := by
  cases n with
  | ofNat n =>
      rw [show Text.ofInt (Int.ofNat n) = Text.ofNat n from rfl, numberOrZero,
        leading?_numeral (readSign_ofNat n)]
      exact value?_toFloat hn false
  | negSucc n =>
      have hread : leading? ('-' :: Text.ofNat (n + 1)) = _ := leading?_numeral rfl
      rw [show Text.ofInt (Int.negSucc n) = '-' :: Text.ofNat (n + 1) from rfl, numberOrZero, hread]
      exact value?_toFloat hn true

/-- The form of a whole number has no places behind the point. -/
theorem wholePart_of_same {m n : ℕ} {e : ℤ} (h : Binary.Same m e n 0) :
    Binary.isWhole m e = true ∧ Binary.wholePart m e = n := by
  rw [Binary.Same] at h
  unfold Binary.isWhole Binary.wholePart
  by_cases he : e < 0
  · rw [show (e - 0).toNat = 0 by omega, pow_zero, mul_one,
      show (0 - e).toNat = e.natAbs by omega] at h
    rw [if_pos he, if_pos he, h]
    exact ⟨beq_iff_eq.mpr (Nat.mul_mod_left ..), Nat.mul_div_cancel _ (Nat.two_pow_pos _)⟩
  · rw [show (0 - e).toNat = 0 by omega, pow_zero, mul_one, sub_zero] at h
    rw [if_neg he, if_neg he]
    exact ⟨rfl, h⟩

/-- A whole number is its size with its sign. -/
theorem size_of_signed {negative : Bool} {m : ℕ} {e n : ℤ}
    (h : (n : ℚ) = Binary.signed negative m * 2 ^ e) :
    (m : ℚ) * 2 ^ e = (n.natAbs : ℚ) * 2 ^ (0 : ℤ) ∧ Binary.signed negative n.natAbs = n := by
  have hsize : (0 : ℚ) ≤ m * 2 ^ e := mul_nonneg (Nat.cast_nonneg m) (zpow_pos two_pos e).le
  rw [zpow_zero, mul_one, Nat.cast_natAbs]
  cases negative with
  | false =>
      have h : (n : ℚ) = m * 2 ^ e := by simpa [Binary.signed] using h
      have hn : 0 ≤ n := by
        rw [← h] at hsize
        exact_mod_cast hsize
      exact ⟨by rw [abs_of_nonneg hn, h], by simp [Binary.signed, abs_of_nonneg hn]⟩
  | true =>
      have h : (n : ℚ) = -(m * 2 ^ e) := by simpa [Binary.signed] using h
      have hn : n ≤ 0 := by
        rw [← neg_neg ((m : ℚ) * 2 ^ e), ← h, Left.nonneg_neg_iff] at hsize
        exact_mod_cast hsize
      exact ⟨by rw [abs_of_nonpos hn, Int.cast_neg, h, neg_neg],
        by simp [Binary.signed, abs_of_nonpos hn]⟩

/-- **A whole number is written as its numeral.** -/
theorem text_of_whole {n : ℤ} (hx : value? x = some (n : ℚ)) (hn : IsExact n) :
    text x = Text.ofInt n := by
  obtain ⟨negative, m, e, hof, -, hvalue⟩ := Binary.exists_canonical hx
  obtain ⟨hsize, hsigned⟩ := size_of_signed hvalue
  obtain ⟨hwhole, hpart⟩ := wholePart_of_same (Binary.same_of_value hsize)
  have hsmall : n.natAbs < Nat.pow 10 21 := Nat.lt_trans hn (by decide)
  unfold text
  rw [hof]
  dsimp only
  rw [hwhole, hpart, hsigned, decide_eq_true hsmall]
  rfl

end Number

end CardTalk
