/-
Words of a text, as the blanks around them show them.

Cutting a text at its blanks gives its words in order.  A word that is not the first has blanks
before it (`mem_tail_words_iff`), and the last one ends the text (`getLast?_tail_words_iff`).  A
word that follows blanks within a text is a word of the text also when it is read with more text
behind (`within_of_append`): so a form that stops too early has stopped at a word of the text.
-/
import CardTalk.Proofs.Text.Blank

namespace CardTalk.Text

/-- The pieces of a text between its blanks, in order. -/
def words (t : Text) : List Text := t.splitOnP isBlank

theorem words_append (front : Text) {b : Char} (hb : isBlank b) (rest : Text) :
    words (front ++ b :: rest) = words front ++ words rest :=
  List.splitOnP_append_cons front rest hb

theorem words_eq_singleton {w : Text} (hw : ∀ c ∈ w, ¬isBlank c) : words w = [w] :=
  List.splitOnP_eq_singleton fun c hc => Bool.eq_false_iff.mpr (hw c hc)

theorem words_ne_nil (t : Text) : words t ≠ [] := List.splitOnP_ne_nil isBlank t

/-- The first word is what comes before the first blank. -/
theorem words_eq_cons (t : Text) :
    words t = t.takeWhile (!isBlank ·) :: (words t).tail := by
  induction t with
  | nil => rfl
  | cons c t ih =>
      rw [words, List.splitOnP_cons_eq_if_modifyHead, ← words, ih]
      by_cases hc : isBlank c
      · simp [hc]
      · simp [hc]

/-- A word behind the first one has blanks before it, and another one or nothing behind it. -/
theorem mem_tail_words_iff {w t : Text} :
    w ∈ (words t).tail ↔
      ∃ before passed after, t = before ++ (passed ++ (w ++ after)) ∧ passed ≠ [] ∧
        (∀ c ∈ passed, isBlank c) ∧ (∀ c ∈ w, ¬isBlank c) ∧ ∀ c ∈ after.head?, isBlank c := by
  constructor
  · induction t with
    | nil => exact fun h => absurd h List.not_mem_nil
    | cons c t ih =>
        intro h
        have hcases : isBlank c ∧ w = t.takeWhile (!isBlank ·) ∨ w ∈ (words t).tail := by
          rw [words, List.splitOnP_cons_eq_if_modifyHead, ← words, words_eq_cons] at h
          by_cases hc : isBlank c
          · rw [if_pos hc, List.tail_cons] at h
            exact (List.mem_cons.mp h).imp_left fun hw => ⟨hc, hw⟩
          · rw [if_neg hc] at h
            exact .inr h
        rcases hcases with ⟨hc, rfl⟩ | hlater
        · refine ⟨[], [c], t.dropWhile (!isBlank ·), ?_, List.cons_ne_nil c [],
            List.forall_mem_singleton.mpr hc, fun d hd => ?_, fun d hd => ?_⟩
          · rw [List.takeWhile_append_dropWhile, List.nil_append, List.singleton_append]
          · simpa using List.mem_takeWhile_imp hd
          · have hno := List.head?_dropWhile_not (!isBlank ·) t
            rw [Option.mem_def.mp hd] at hno
            simpa using hno
        · obtain ⟨before, passed, after, rfl, hrest⟩ := ih hlater
          exact ⟨c :: before, passed, after, rfl, hrest⟩
  · rintro ⟨before, passed, after, rfl, hne, hpassed, hw, hafter⟩
    obtain ⟨b, passed, rfl⟩ := List.exists_cons_of_ne_nil hne
    obtain ⟨hb, hpassed⟩ := List.forall_mem_cons.mp hpassed
    have hmem := mem_splitOnP hpassed (fun c hc => Bool.eq_false_iff.mpr (hw c hc)) hafter
    rw [List.append_assoc] at hmem
    rw [List.cons_append, words_append before hb, List.tail_append_of_ne_nil (words_ne_nil before)]
    exact List.mem_append_right _ hmem

/-- The last word of what comes behind a blank is the last of those behind the first one. -/
theorem getLast?_tail_words_append (front : Text) {b : Char} (hb : isBlank b) (rest : Text) :
    (words (front ++ b :: rest)).tail.getLast? = (words rest).getLast? := by
  rw [words_append front hb, List.tail_append_of_ne_nil (words_ne_nil front),
    List.getLast?_append_of_ne_nil _ (words_ne_nil rest)]

theorem getLast?_words_of_tail {w t : Text} (h : (words t).tail.getLast? = some w) :
    (words t).getLast? = some w := by
  rw [words_eq_cons, List.getLast?_cons, h]
  rfl

/-- The last word, if it is not the first one, is what comes behind the last blanks. -/
theorem getLast?_tail_words_iff {w t : Text} :
    (words t).tail.getLast? = some w ↔
      ∃ front passed, t = front ++ (passed ++ w) ∧ passed ≠ [] ∧ (∀ c ∈ passed, isBlank c) ∧
        ∀ c ∈ w, ¬isBlank c := by
  have hlast : ∀ {w : Text} (front : Text) {b : Char}, isBlank b → (∀ c ∈ w, ¬isBlank c) →
      (words (front ++ b :: w)).tail.getLast? = some w := by
    intro w front b hb hw
    rw [getLast?_tail_words_append front hb, words_eq_singleton hw]
    rfl
  -- a text has no blanks, or a last one
  have hcases : (∀ c ∈ t, ¬isBlank c) ∨
      ∃ front b w, t = front ++ b :: w ∧ isBlank b ∧ ∀ c ∈ w, ¬isBlank c := by
    clear hlast
    induction t with
    | nil => exact .inl nofun
    | cons c t ih =>
        rcases ih with hno | ⟨front, b, w, rfl, hb, hw⟩
        · by_cases hc : isBlank c
          · exact .inr ⟨[], c, t, rfl, hc, hno⟩
          · exact .inl (List.forall_mem_cons.mpr ⟨hc, hno⟩)
        · exact .inr ⟨c :: front, b, w, rfl, hb, hw⟩
  constructor
  · intro h
    rcases hcases with hno | ⟨front, b, w', rfl, hb, hw'⟩
    · rw [words_eq_singleton hno] at h
      exact nomatch h
    · obtain rfl := Option.some.inj ((hlast front hb hw').symm.trans h)
      exact ⟨front, [b], rfl, List.cons_ne_nil b [], List.forall_mem_singleton.mpr hb, hw'⟩
  · rintro ⟨front, passed, rfl, hne, hpassed, hw⟩
    have hsplit : front ++ (passed ++ w) = front ++ passed.dropLast ++ passed.getLast hne :: w := by
      conv_lhs => rw [← List.dropLast_append_getLast hne]
      simp only [List.append_assoc, List.cons_append, List.nil_append]
    rw [hsplit]
    exact hlast _ (hpassed _ (List.getLast_mem hne)) hw

/-- A run without blanks that follows blanks within a text ends within the text, if the text ends
in no blank and one comes right behind it. -/
theorem within_of_append {x z blanks w after : Text} {b : Char} (hb : isBlank b)
    (hx : ∀ c ∈ x.getLast?, ¬isBlank c) (hne : x ≠ []) (hblanks : ∀ c ∈ blanks, isBlank c)
    (hw : ∀ c ∈ w, ¬isBlank c) (h : x ++ b :: z = blanks ++ (w ++ after)) :
    ∃ after', x = blanks ++ (w ++ after') ∧ after = after' ++ b :: z := by
  -- the blanks end before the text does
  obtain ⟨y, rfl, hy⟩ : ∃ y, x = blanks ++ y ∧ y ++ b :: z = w ++ after := by
    rcases List.append_eq_append_iff.mp h with ⟨y, hbefore, -⟩ | ⟨y, hx', hy⟩
    · have hlast := List.getLast?_eq_some_getLast hne
      have hmem : x.getLast hne ∈ blanks := hbefore ▸ List.mem_append_left _ (List.getLast_mem hne)
      exact absurd (hblanks _ hmem) (hx _ hlast)
    · exact ⟨y, hx', hy.symm⟩
  rcases List.append_eq_append_iff.mp hy with ⟨u, hu, hafter⟩ | ⟨after', hy', hafter⟩
  · cases u with
    | nil =>
        rw [List.append_nil] at hu
        exact ⟨[], by rw [hu, List.append_nil], hafter.symm⟩
    | cons c u =>
        obtain rfl : b = c := (List.cons.inj hafter).1
        exact absurd hb (hw b (hu ▸ List.mem_append_right _ List.mem_cons_self))
  · exact ⟨after', by rw [hy'], hafter⟩

end CardTalk.Text
