/-
The short form of a colour.

Three numbers with commas between them are a colour without its `rgb` (`Triple`), and are given
back with it.  With it they are no triple, so a text that is expanded twice is expanded once.
-/
import CardTalk.Color
import CardTalk.Proofs.Text.Blank

namespace CardTalk

open Text

/-- Cutting a text at a character is cutting a list at an element. -/
theorem Text.splitOn_eq (separator : Char) (t : Text) :
    Text.splitOn separator t = List.splitOn separator t := by
  induction t with
  | nil => rfl
  | cons c t ih =>
      have hne : Text.splitOn separator t ≠ [] := by
        rw [ih, List.splitOn_eq_splitOnP]
        exact List.splitOnP_ne_nil _ t
      obtain ⟨piece, others, hpieces⟩ := List.exists_cons_of_ne_nil hne
      rw [List.splitOn_eq_splitOnP, List.splitOnP_cons_eq_if_modifyHead,
        ← List.splitOn_eq_splitOnP, ← ih, hpieces]
      unfold Text.splitOn at hpieces ⊢
      rw [List.foldr_cons, hpieces]
      by_cases hc : c = separator
      · rw [if_pos hc, if_pos (beq_iff_eq.mpr hc)]
      · rw [if_neg hc, if_neg (by simpa using hc)]
        rfl

namespace Color

/-- Three numbers in digits with commas between them, and blanks only behind the commas. -/
inductive Triple : Text → Prop
  | mk {r g b before between : Text} (hr : isNumberText r) (hg : isNumberText g)
      (hb : isNumberText b) (hbefore : ∀ d ∈ before, isBlank d)
      (hbetween : ∀ d ∈ between, isBlank d) :
      Triple (r ++ ',' :: (before ++ g) ++ ',' :: (between ++ b))

theorem isNumberText_iff {t : Text} : isNumberText t ↔ t ≠ [] ∧ ∀ d ∈ t, isDecimal d := by
  simp [isNumberText, List.isEmpty_eq_false_iff]

/-- Digits with blanks before them are read without the blanks. -/
theorem trimStart_append {passed n : Text} (hpassed : ∀ d ∈ passed, isBlank d)
    (hn : isNumberText n) : trimStart (passed ++ n) = n := by
  rw [trimStart, List.dropWhile_append_of_pos hpassed]
  refine List.dropWhile_eq_self_iff.mpr fun hpos hblank => ?_
  exact forall_isBlank (P := fun d => ¬isDecimal d) (by decide +kernel) hblank
    ((isNumberText_iff.mp hn).2 _ (List.getElem_mem hpos))

theorem comma_not_mem_append {passed n : Text} (hpassed : ∀ d ∈ passed, isBlank d)
    (hn : isNumberText n) : ',' ∉ passed ++ n := by
  intro hmem
  rcases List.mem_append.mp hmem with hmem | hmem
  · exact absurd (hpassed _ hmem) (by decide)
  · exact absurd ((isNumberText_iff.mp hn).2 _ hmem) (by decide)

theorem isTriple_iff {t : Text} : isTriple t ↔ Triple t := by
  constructor
  · intro h
    rw [isTriple] at h
    split at h
    · rename_i r g b hsplit
      obtain ⟨hrg, hb⟩ := Bool.and_eq_true_iff.mp h
      obtain ⟨hr, hg⟩ := Bool.and_eq_true_iff.mp hrg
      have hpieces : ∀ u : Text, u.takeWhile isBlank ++ trimStart u = u := fun u =>
        List.takeWhile_append_dropWhile
      have ht : t = r ++ ',' :: (g.takeWhile isBlank ++ trimStart g) ++
          ',' :: (b.takeWhile isBlank ++ trimStart b) := by
        have hjoined : List.intercalate [','] (List.splitOn ',' t) = t :=
          List.intercalate_splitOn ','
        rw [hpieces g, hpieces b, ← hjoined, ← splitOn_eq, hsplit]
        simp [List.intercalate]
      rw [ht]
      exact .mk hr hg hb (fun d hd => List.mem_takeWhile_imp hd) fun d hd =>
        List.mem_takeWhile_imp hd
    · exact absurd h Bool.false_ne_true
  · rintro @⟨r, g, b, before, between, hr, hg, hb, hbefore, hbetween⟩
    have hfirst : ',' ∉ [] ++ r := comma_not_mem_append nofun hr
    have hpieces : ∀ u ∈ [r, before ++ g, between ++ b], ',' ∉ u :=
      List.forall_mem_cons.mpr ⟨hfirst,
        List.forall_mem_cons.mpr ⟨comma_not_mem_append hbefore hg,
          List.forall_mem_singleton.mpr (comma_not_mem_append hbetween hb)⟩⟩
    have hsplit : Text.splitOn ',' (r ++ ',' :: (before ++ g) ++ ',' :: (between ++ b)) =
        [r, before ++ g, between ++ b] := by
      rw [splitOn_eq, ← List.splitOn_intercalate ',' hpieces (List.cons_ne_nil _ _)]
      simp [List.intercalate]
    rw [isTriple, hsplit]
    dsimp only
    rw [trimStart_append hbefore hg, trimStart_append hbetween hb, hr, hg, hb]
    rfl

instance (t : Text) : Decidable (Triple t) := decidable_of_iff _ isTriple_iff

theorem expandTriple_triple {t : Text} (h : Triple (trim t)) :
    expandTriple t = ("rgb(" : Text) ++ trim t ++ ")" :=
  if_pos (isTriple_iff.mpr h)

theorem expandTriple_other {t : Text} (h : ¬Triple (trim t)) : expandTriple t = t :=
  if_neg fun htriple => h (isTriple_iff.mp htriple)

/-- What holds of a text and of what is written around a colour holds of the full form. -/
theorem forall_expandTriple {P : Char → Prop} (hwritten : ∀ c ∈ ("rgb()" : Text), P c) {t : Text}
    (ht : ∀ c ∈ t, P c) : ∀ c ∈ expandTriple t, P c := by
  by_cases h : Triple (trim t)
  · obtain ⟨before, after, -, -, hsplit⟩ := exists_blanks_around t
    have hinner : ∀ c ∈ trim t, P c := fun c hc => ht c (by rw [hsplit]; simp [hc])
    obtain ⟨hopen, hclose⟩ := List.forall_mem_append.mp
      (show ∀ c ∈ ("rgb(" : Text) ++ (")" : Text), P c from hwritten)
    rw [expandTriple_triple h]
    exact List.forall_mem_append.mpr ⟨List.forall_mem_append.mpr ⟨hopen, hinner⟩, hclose⟩
  · rwa [expandTriple_other h]

theorem not_mem_expandTriple {c : Char} {t : Text} (hc : c ∉ ("rgb()" : Text)) (ht : c ∉ t) :
    c ∉ expandTriple t := fun hmem =>
  forall_expandTriple (P := (· ≠ c)) (fun _ hd heq => hc (heq ▸ hd)) (fun _ hd heq => ht (heq ▸ hd))
    c hmem rfl

/-- What is expanded is expanded no further. -/
theorem expandTriple_expandTriple (t : Text) : expandTriple (expandTriple t) = expandTriple t := by
  by_cases h : Triple (trim t)
  · rw [expandTriple_triple h]
    refine expandTriple_other fun hagain => ?_
    -- a triple begins with a digit
    have htrim : trim (("rgb(" : Text) ++ trim t ++ ")") = ("rgb(" : Text) ++ trim t ++ ")" := by
      refine trim_of_not_isBlank (fun c hc => ?_) fun c hc => ?_
      · obtain rfl : 'r' = c := Option.some.inj hc
        decide
      · have hlast : ("rgb(" : Text) ++ trim t ++ ")" = ("rgb(" : Text) ++ trim t ++ [')'] := rfl
        rw [hlast, List.getLast?_concat] at hc
        obtain rfl : ')' = c := Option.some.inj hc
        decide
    rw [htrim] at hagain
    generalize hu : ("rgb(" : Text) ++ trim t ++ ")" = u at hagain
    obtain @⟨r, g, b, before, between, hr, -, -, -, -⟩ := hagain
    obtain ⟨hne, hdigits⟩ := isNumberText_iff.mp hr
    obtain ⟨d, r, rfl⟩ := List.exists_cons_of_ne_nil hne
    obtain rfl : 'r' = d := (List.cons.inj hu).1
    exact absurd (hdigits 'r' List.mem_cons_self) (by decide)
  · rw [expandTriple_other h]
    exact expandTriple_other h

end Color

end CardTalk
