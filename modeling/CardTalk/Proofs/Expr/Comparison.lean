/-
What comparisons say of texts.

Two texts that both begin with a number are ordered as the numbers, and any others as the forms
that they are compared in.  Equal are two texts that are read as the same thing, a number or a
form (`order_eq_iff`): a text of either kind never equals one of the other, because whether a
text begins with a number can be told from its form.  Turning the sides around turns the order
around (`order_swap`).  Everything that is said of comparisons here follows from these two.

Only the beginning of a text is read as a number, so texts that go on differently after equal
numbers are equal.
-/
import CardTalk.Proofs.Number.Leading
import CardTalk.Proofs.Number.Order
import Mathlib.Order.Compare

namespace CardTalk.Comparison

open Number

/-! ### The two orders -/

section

variable {a b : Text}

theorem order_of_numbers {x y : Float} (ha : leading? a = some x) (hb : leading? b = some y) :
    order a b = cmp (place x) (place y) := by
  have hx := leading_ne_undefined ha
  have hy := leading_ne_undefined hb
  rw [order, ha, hb, cmp_eq_compareOfLessAndEq, compareOfLessAndEq]
  simp only [lt_iff hx hy, beq_iff hx hy]

theorem order_of_forms (h : leading? a = none ∨ leading? b = none) :
    order a b = compareOfLessAndEq (folded a) (folded b) := by
  unfold order
  split
  · rename_i x y ha hb
    rcases h with h | h
    · exact nomatch h.symm.trans ha
    · exact nomatch h.symm.trans hb
  · rfl

theorem order_of_forms_eq_iff (h : leading? a = none ∨ leading? b = none) :
    order a b = .eq ↔ folded a = folded b := by
  rw [order_of_forms h]
  -- the order that lists have by themselves, not the one from a linear order of characters
  let _ : LE Text := List.instLE
  exact compareOfLessAndEq_eq_eq List.le_refl List.not_le

end

/-- What a text is compared as: the number that it begins with, or else its form. -/
def reading (t : Text) : ℤ ×ₗ ℤ ×ₗ ℤ ⊕ Text :=
  match leading? t with
  | some x => .inl (place x)
  | none => .inr (folded t)

/-- Texts are equal if they are read as the same thing. -/
theorem order_eq_iff (a b : Text) : order a b = .eq ↔ reading a = reading b := by
  -- texts of the same form both begin with a number, or neither does
  have hforms : folded a = folded b → (leading? a).isSome = (leading? b).isSome := fun h => by
    rw [← isSome_leading_folded, h, isSome_leading_folded]
  unfold reading
  cases ha : leading? a with
  | some x =>
      cases hb : leading? b with
      | some y => rw [order_of_numbers ha hb, cmp_eq_eq_iff, Sum.inl.injEq]
      | none =>
          rw [order_of_forms_eq_iff (.inr hb)]
          rw [ha, hb] at hforms
          exact ⟨fun h => (nomatch hforms h), nofun⟩
  | none =>
      rw [order_of_forms_eq_iff (.inl ha)]
      cases hb : leading? b with
      | some y =>
          rw [ha, hb] at hforms
          exact ⟨fun h => (nomatch hforms h), nofun⟩
      | none => rw [Sum.inr.injEq]

theorem order_swap (a b : Text) : (order a b).swap = order b a := by
  by_cases h : leading? a = none ∨ leading? b = none
  · let _ : LE Text := List.instLE
    rw [order_of_forms h, order_of_forms h.symm,
      ← compareOfLessAndEq_eq_swap List.le_antisymm List.le_total List.not_le]
  · obtain ⟨ha, hb⟩ := not_or.mp h
    obtain ⟨x, ha⟩ := Option.ne_none_iff_exists'.mp ha
    obtain ⟨y, hb⟩ := Option.ne_none_iff_exists'.mp hb
    rw [order_of_numbers ha hb, order_of_numbers hb ha, cmp_swap]

/-! ### Comparisons -/

/-- What is expected of comparisons that belong together. -/
structure Coherent (holds : BinaryOp → Text → Text → Bool) : Prop where
  equivalence : Equivalence fun a b => holds .equal a b = true
  is_eq : holds .is = holds .equal
  unequal : ∀ op ∈ [BinaryOp.unequal, .unequalBang, .isNot], ∀ a b,
    holds op a b = !holds .equal a b
  /-- Exactly one of the three is true of two texts. -/
  trichotomy : ∀ a b, [BinaryOp.less, .equal, .greater].countP (holds · a b) = 1
  greater : ∀ a b, holds .greater a b = holds .less b a
  atMost : ∀ a b, holds .atMost a b = !holds .greater a b
  atLeast : ∀ a b, holds .atLeast a b = !holds .less a b

theorem equal_iff_reading (a b : Text) : compare .equal a b = true ↔ reading a = reading b := by
  rw [← order_eq_iff]
  exact beq_iff_eq

/-- **Comparisons of texts are coherent.**  Being equal is an equivalence of all texts, of those
that begin with a number, those that do not, and both together; of any two texts exactly one is
less, equal or greater; and every other comparison says what its name does in terms of these. -/
theorem compare_coherent : Coherent compare where
  equivalence := by
    refine ⟨fun a => ?_, fun {a b} h => ?_, fun {a b c} h h' => ?_⟩
    · rw [equal_iff_reading]
    · rw [equal_iff_reading] at h ⊢
      exact h.symm
    · rw [equal_iff_reading] at h h' ⊢
      exact h.trans h'
  is_eq := rfl
  unequal := by
    intro op hop a b
    simp only [List.mem_cons, List.not_mem_nil, or_false] at hop
    rcases hop with rfl | rfl | rfl <;> rfl
  trichotomy := by
    intro a b
    simp only [compare, accepts]
    cases order a b <;> rfl
  greater := by
    intro a b
    simp only [compare, accepts, ← order_swap b a]
    cases order b a <;> rfl
  atMost := by
    intro a b
    simp only [compare, accepts]
    cases order a b <;> rfl
  atLeast := by
    intro a b
    simp only [compare, accepts]
    cases order a b <;> rfl

/-- **Two texts are equal exactly if both begin with a number and these are equal, or neither
does and both have the same form.**  How a text goes on after a number does not matter. -/
theorem equal_iff_numbers_or_forms (a b : Text) :
    compare .equal a b = true ↔
      (∃ x y, leading? a = some x ∧ leading? b = some y ∧ (x == y) = true) ∨
        (leading? a = none ∧ leading? b = none ∧ folded a = folded b) := by
  rw [equal_iff_reading]
  unfold reading
  cases ha : leading? a with
  | some x =>
      cases hb : leading? b with
      | some y =>
          have hnumbers := beq_iff (leading_ne_undefined ha) (leading_ne_undefined hb)
          simp [hnumbers]
      | none => simp
  | none =>
      cases hb : leading? b with
      | some y => simp
      | none => simp

/-- Texts that are no numbers as a whole can be equal without having the same form. -/
theorem equal_without_same_form :
    ¬∀ a b, ¬(isNumeral a ∧ isNumeral b) → compare .equal a b = true → folded a = folded b :=
  fun h => absurd (h "12px" "12em" (by decide +kernel) (by decide +kernel)) (by decide +kernel)

end CardTalk.Comparison
