/-
Blanks, trimmed texts, the words between blanks, and blanks among letters in any case.

The blanks are listed, so that what is to hold of all of them can be checked one by one.
-/
import CardTalk.Text.Alphanumeric
import CardTalk.Text.Blank
import CardTalk.Text.Case
import Mathlib.Data.List.DropRight

namespace CardTalk.Text

/-- The code points of the blanks. -/
def blankPoints : List Nat :=
  [9, 10, 11, 12, 13, 28, 29, 30, 31, 32, 0x85, 0xa0, 0x1680, 0x2000, 0x2001, 0x2002, 0x2003,
    0x2004, 0x2005, 0x2006, 0x2007, 0x2008, 0x2009, 0x200a, 0x2028, 0x2029, 0x202f, 0x205f, 0x3000]

theorem mem_blankPoints {c : Char} (h : isBlank c) : c.toNat ∈ blankPoints := by
  simp only [isBlank] at h
  simp only [blankPoints, List.mem_cons]
  split at h <;> simp at h <;> omega

/-- What holds of all blanks. -/
theorem forall_isBlank {P : Char → Prop} (h : ∀ n ∈ blankPoints, P (Char.ofNat n)) {c : Char}
    (hc : isBlank c) : P c := by
  have hmem := h _ (mem_blankPoints hc)
  rwa [Char.ofNat_toNat] at hmem

/-! ### Trimmed texts -/

theorem trim_eq_self {t : Text} (h : trim t = t) : trimStart t = t ∧ trimEnd t = t := by
  have hstart : trimStart t <:+ t := List.dropWhile_suffix _
  have hend : trim t <+: trimStart t := List.rdropWhile_prefix _ _
  rw [h] at hend
  have heq : trimStart t = t := hstart.eq_of_length_le hend.length_le
  rw [trim, heq] at h
  exact ⟨heq, h⟩

theorem length_trim_le (t : Text) : (trim t).length ≤ t.length := by
  have hstart : trimStart t <:+ t := List.dropWhile_suffix _
  have hend : trim t <+: trimStart t := List.rdropWhile_prefix _ _
  exact hend.length_le.trans hstart.length_le

/-- A trimmed text begins with no blank. -/
theorem not_isBlank_head {c : Char} {t : Text} (h : trim (c :: t) = c :: t) : ¬isBlank c :=
  List.dropWhile_eq_self_iff.mp (trim_eq_self h).1 (Nat.zero_lt_succ _)

/-- A trimmed text ends with no blank. -/
theorem not_isBlank_getLast {t : Text} (h : trim t = t) (ht : t ≠ []) : ¬isBlank (t.getLast ht) :=
  List.rdropWhile_eq_self_iff.mp (trim_eq_self h).2 ht

theorem not_isBlank_of_mem_getLast? {t : Text} (h : trim t = t) : ∀ c ∈ t.getLast?, ¬isBlank c := by
  intro c hc
  have ht : t ≠ [] := by
    rintro rfl
    exact nomatch hc
  rw [Option.mem_def, List.getLast?_eq_some_getLast ht, Option.some_inj] at hc
  exact hc ▸ not_isBlank_getLast h ht

/-- A blank at the beginning is trimmed off. -/
theorem trim_cons {b : Char} (hb : isBlank b) (t : Text) : trim (b :: t) = trim t := by
  rw [trim, trim, trimStart, List.dropWhile_cons_of_pos hb]
  rfl

theorem trim_dropWhile (t : Text) : trim (t.dropWhile isBlank) = trim t := by
  rw [trim, trim, trimStart, trimStart, List.dropWhile_idempotent]

theorem trim_of_not_isBlank {t : Text} (hhead : ∀ c ∈ t.head?, ¬isBlank c)
    (hlast : ∀ c ∈ t.getLast?, ¬isBlank c) : trim t = t := by
  have hstart : trimStart t = t := by
    refine List.dropWhile_eq_self_iff.mpr fun hpos => hhead _ ?_
    rw [List.head?_eq_getElem?, List.getElem?_eq_getElem hpos, Option.mem_some_iff]
  rw [trim, hstart]
  refine List.rdropWhile_eq_self_iff.mpr fun hne => hlast _ ?_
  exact List.getLast?_eq_some_getLast hne

theorem trim_trim (t : Text) : trim (trim t) = trim t := by
  refine trim_of_not_isBlank (fun c hc => ?_) fun c hc => ?_
  · obtain ⟨after, hafter⟩ : trim t <+: trimStart t := List.rdropWhile_prefix _ _
    have hno := List.head?_dropWhile_not isBlank t
    have hhead : (trimStart t).head? = some c := by
      rw [← hafter, List.head?_append, Option.mem_def.mp hc, Option.some_or]
    rw [show t.dropWhile isBlank = trimStart t from rfl, hhead] at hno
    simpa using hno
  · have hno := List.head?_dropWhile_not isBlank (trimStart t).reverse
    rw [trim, trimEnd, List.getLast?_reverse] at hc
    rw [Option.mem_def.mp hc] at hno
    simpa using hno

/-- A text is its trimmed part with blanks around it. -/
theorem exists_blanks_around (t : Text) :
    ∃ before after, (∀ c ∈ before, isBlank c) ∧ (∀ c ∈ after, isBlank c) ∧
      t = before ++ trim t ++ after := by
  refine ⟨t.takeWhile isBlank, ((trimStart t).reverse.takeWhile isBlank).reverse,
    fun c hc => List.mem_takeWhile_imp hc, fun c hc => ?_, ?_⟩
  · exact List.mem_takeWhile_imp (List.mem_reverse.mp hc)
  · have hend : trim t ++ ((trimStart t).reverse.takeWhile isBlank).reverse = trimStart t := by
      rw [trim, trimEnd, ← List.reverse_append, List.takeWhile_append_dropWhile,
        List.reverse_reverse]
    rw [List.append_assoc, hend]
    exact List.takeWhile_append_dropWhile.symm

/-! ### Words -/

/-- A run without blanks, after blanks and before one or the end, is a word of the text. -/
theorem mem_splitOnP {blanks word after : Text} (hblanks : ∀ c ∈ blanks, isBlank c)
    (hword : ∀ c ∈ word, isBlank c = false) (hafter : ∀ c ∈ after.head?, isBlank c) :
    word ∈ (blanks ++ word ++ after).splitOnP isBlank := by
  induction blanks with
  | nil =>
      cases after with
      | nil =>
          rw [List.nil_append, List.append_nil, List.splitOnP_eq_singleton hword]
          exact List.mem_singleton_self _
      | cons c after =>
          rw [List.nil_append, List.splitOnP_append_cons_of_forall_mem hword c (hafter c rfl)]
          exact List.mem_cons_self
  | cons b blanks ih =>
      have hrest := ih fun c hc => hblanks c (List.mem_cons_of_mem _ hc)
      have hsplit := List.splitOnP_append_cons [] (blanks ++ word ++ after)
        (hblanks b List.mem_cons_self)
      rw [List.nil_append] at hsplit
      rw [List.cons_append, List.cons_append, hsplit]
      exact List.mem_append_right _ hrest

/-- The words of the trimmed text are words of the text. -/
theorem mem_splitOnP_of_trim {w t : Text} (h : w ∈ (trim t).splitOnP isBlank) :
    w ∈ t.splitOnP isBlank := by
  obtain ⟨before, after, hbefore, hafter, ht⟩ := exists_blanks_around t
  have hinner : w ∈ (trim t ++ after).splitOnP isBlank := by
    cases after with
    | nil => rwa [List.append_nil]
    | cons c after =>
        rw [List.splitOnP_append_cons _ _ (hafter c List.mem_cons_self)]
        exact List.mem_append_left _ h
  rw [ht, List.append_assoc]
  cases hlast : before.getLast? with
  | none => rwa [List.getLast?_eq_none_iff.mp hlast, List.nil_append]
  | some b =>
      obtain ⟨front, rfl⟩ := List.getLast?_eq_some_iff.mp hlast
      have hb : isBlank b := hbefore b (by simp)
      rw [List.append_assoc, List.singleton_append, List.splitOnP_append_cons _ _ hb]
      exact List.mem_append_right _ hinner

/-! ### Lower case -/

theorem lower_ne_nil {t : Text} (h : t ≠ []) : lower t ≠ [] := by
  cases t with
  | nil => exact absurd rfl h
  | cons c rest =>
      show (if c = 'Σ' then [lowerSigma [] rest] else lowerForm c) ++ lower.go [c] rest ≠ []
      refine List.append_ne_nil_of_left_ne_nil ?_ _
      split
      · exact List.cons_ne_nil _ _
      · unfold lowerForm
        split
        · exact List.cons_ne_nil _ _
        · exact List.cons_ne_nil _ _

theorem lowerForm_of_isBlank {c : Char} (h : isBlank c) : c ≠ 'Σ' ∧ lowerForm c = [c] :=
  forall_isBlank (P := fun c => c ≠ 'Σ' ∧ lowerForm c = [c]) (by decide +kernel) h

/-- Blanks stay in lower case. -/
theorem mem_lower_of_isBlank {c : Char} {t : Text} (hc : isBlank c) (h : c ∈ t) : c ∈ lower t := by
  have hgo : ∀ before, c ∈ lower.go before t := by
    induction t with
    | nil => exact nomatch h
    | cons d rest ih =>
        intro before
        rw [lower.go]
        rcases List.mem_cons.mp h with rfl | hrest
        · obtain ⟨hsigma, hform⟩ := lowerForm_of_isBlank hc
          rw [if_neg hsigma, hform]
          exact List.mem_append_left _ (List.mem_singleton_self _)
        · exact List.mem_append_right _ (ih hrest _)
  exact hgo []

/-! ### Letters in any case -/

/-- A blank has no other case. -/
theorem fold_of_isBlank {c : Char} (h : isBlank c) : fold c = c :=
  forall_isBlank (P := fun c => fold c = c) (by decide +kernel) h

/-- No letter beyond the first 128 is or becomes a blank in lower case. -/
theorem forall_lowerRuns : ∀ r ∈ lowerRuns, ∀ n ∈ blankPoints,
    n < r.2.2.2 ∨ r.2.2.2 + (r.2.1 - r.1) < n := by
  decide +kernel

/-- A number that is no character's stands for the first character. -/
theorem toNat_ofNat_cases (n : Nat) : (Char.ofNat n).toNat = n ∨ (Char.ofNat n).toNat = 0 := by
  by_cases hvalid : n.isValidChar
  · exact .inl (by rw [Char.ofNat, dif_pos hvalid]; rfl)
  · exact .inr (by rw [Char.ofNat, dif_neg hvalid]; rfl)

theorem isBlank_of_mapRuns {c : Char} (h : isBlank (Char.ofNat (mapRuns lowerRuns c.toNat))) :
    isBlank c := by
  rw [mapRuns] at h
  split at h
  · rename_i first last step image hfind
    have hmem := mem_blankPoints h
    have hrange := List.find?_some hfind
    have himage := forall_lowerRuns _ (List.mem_of_find?_eq_some hfind) _ hmem
    simp only [Bool.and_eq_true, decide_eq_true_eq] at hrange himage
    rcases toNat_ofNat_cases (image + (c.toNat - first)) with hpoint | hzero
    · omega
    · rw [hzero] at hmem
      exact absurd hmem (by decide)
  · rwa [Char.ofNat_toNat] at h

theorem isBlank_fold (c : Char) : isBlank (fold c) = isBlank c := by
  rw [Bool.eq_iff_iff]
  refine ⟨fun h => ?_, fun h => by rwa [fold_of_isBlank h]⟩
  unfold fold at h
  dsimp only at h
  split at h
  · rename_i hsmall
    have hpoints : ∀ n < 128, isBlank (Char.ofNat n).toLower → isBlank (Char.ofNat n) := by
      decide +kernel
    have hc := hpoints c.toNat hsmall
    rw [Char.ofNat_toNat] at hc
    exact hc h
  · have hvariants : ∀ v ∈ foldVariants, ¬isBlank v.2 := by decide +kernel
    cases hfind : foldVariants.find? fun v => v.1 == lowerChar c with
    | some v =>
        rw [hfind] at h
        exact absurd h (hvariants v (List.mem_of_find?_eq_some hfind))
    | none =>
        rw [hfind, Option.map_none, Option.getD_none, lowerChar, if_neg ‹_›] at h
        split at h
        · exact absurd h (by decide)
        · exact isBlank_of_mapRuns h

/-- The texts have the same letters, their case aside. -/
def Alike (v w : Text) : Prop := v.map fold = w.map fold

instance (v w : Text) : Decidable (Alike v w) := inferInstanceAs (Decidable (_ = _))

/-- Where one of two alike texts has a blank, so does the other. -/
theorem Alike.forall_not_isBlank {v w : Text} (h : Alike v w) (hw : ∀ c ∈ w, ¬isBlank c) :
    ∀ c ∈ v, ¬isBlank c := by
  intro c hc hblank
  obtain ⟨d, hd, hfold⟩ := List.mem_map.mp (h ▸ List.mem_map_of_mem hc : fold c ∈ w.map fold)
  exact hw d hd (by rwa [← isBlank_fold, hfold, isBlank_fold])

theorem Alike.ne_nil {v w : Text} (h : Alike v w) (hw : w ≠ []) : v ≠ [] := by
  rintro rfl
  exact hw (List.map_eq_nil_iff.mp h.symm)

/-- What may stand in an identifier is no blank. -/
theorem not_isBlank_of_isWord {c : Char} (h : isWord c) : ¬isBlank c := fun hblank =>
  forall_isBlank (P := fun c => ¬isWord c) (by decide +kernel) hblank h

end CardTalk.Text
