/-
All the ways in which a search reads a text.

What a form says about a text is a relation between the text, what is read and what is left.
A search has the ways of a relation if it offers each of them to what comes after it, and
nothing else (`Ways`); so it finds something exactly if there is a way that is accepted.  Each
search has the ways that its description tells of, and a form has those of its parts one after
the other (`Ways.bind`).  In which order the ways are offered is not part of this: it matters
only to forms that can be read in more than one.
-/
import CardTalk.Proofs.Text.Blank
import CardTalk.Proofs.Text.Search

namespace CardTalk.Search

variable {α γ : Type}

/-- The search offers the ways of a relation and no others. -/
structure Ways (m : Search α) (way : Text → α → Text → Prop) : Prop where
  sound : ∀ {β : Type} {t : Text} {accept : α → Text → Option β} {b : β},
    m β t accept = some b → ∃ a rest, way t a rest ∧ accept a rest = some b
  complete : ∀ {β : Type} {t : Text} {accept : α → Text → Option β},
    m β t accept = none → ∀ a rest, way t a rest → accept a rest = none

variable {m n : Search α} {way way' : Text → α → Text → Prop}

/-! ### What a form finds -/

theorem Ways.of_first? (h : m.Ways way) {t : Text} {a : α} (hfirst : m.first? t = some a) :
    ∃ rest, way t a rest := by
  obtain ⟨a', rest, hway, ha⟩ := h.sound hfirst
  obtain rfl := Option.some.inj ha
  exact ⟨rest, hway⟩

theorem Ways.first?_eq_none_iff (h : m.Ways way) {t : Text} :
    m.first? t = none ↔ ∀ a rest, ¬way t a rest := by
  constructor
  · intro hnone a rest hway
    exact nomatch h.complete hnone a rest hway
  · intro hno
    refine Option.eq_none_iff_forall_ne_some.mpr fun a ha => ?_
    obtain ⟨rest, hway⟩ := h.of_first? ha
    exact hno a rest hway

theorem Ways.matches?_iff (h : m.Ways way) {t : Text} :
    m.matches? t = true ↔ ∃ a rest, way t a rest := by
  simp only [matches?, Option.isSome_iff_ne_none, ne_eq, h.first?_eq_none_iff, not_forall, not_not]

theorem Ways.congr (h : m.Ways way) (hway : ∀ t a rest, way t a rest ↔ way' t a rest) :
    m.Ways way' := by
  have heq : way' = way := by
    funext t a rest
    exact propext (hway t a rest).symm
  exact heq ▸ h

/-! ### Putting searches together -/

theorem Ways.pure (a : α) : (Pure.pure a : Search α).Ways fun t a' rest => a' = a ∧ rest = t where
  sound h := ⟨_, _, ⟨rfl, rfl⟩, h⟩
  complete h := by
    rintro _ _ ⟨rfl, rfl⟩
    exact h

theorem Ways.bind {f : α → Search γ} {way' : α → Text → γ → Text → Prop} (h : m.Ways way)
    (hf : ∀ a, (f a).Ways (way' a)) :
    (m >>= f).Ways fun t c left => ∃ a rest, way t a rest ∧ way' a rest c left where
  sound hfound := by
    obtain ⟨a, rest, hway, ha⟩ := h.sound hfound
    obtain ⟨c, left, hway', hc⟩ := (hf a).sound ha
    exact ⟨c, left, ⟨a, rest, hway, hway'⟩, hc⟩
  complete hnone := by
    rintro c left ⟨a, rest, hway, hway'⟩
    exact (hf a).complete (h.complete hnone a rest hway) c left hway'

theorem Ways.or (h : m.Ways way) (h' : n.Ways way') :
    (Search.or m n).Ways fun t a rest => way t a rest ∨ way' t a rest where
  sound {β t accept b} hfound := by
    unfold Search.or at hfound
    cases hm : m β t accept with
    | some b' =>
        rw [hm] at hfound
        obtain ⟨a, rest, hway, ha⟩ := h.sound (hm.trans hfound)
        exact ⟨a, rest, .inl hway, ha⟩
    | none =>
        rw [hm] at hfound
        obtain ⟨a, rest, hway, ha⟩ := h'.sound hfound
        exact ⟨a, rest, .inr hway, ha⟩
  complete {β t accept} hnone := by
    unfold Search.or at hnone
    cases hm : m β t accept with
    | some b' =>
        rw [hm] at hnone
        exact absurd hnone (Option.some_ne_none b')
    | none =>
        rw [hm] at hnone
        rintro a rest (hway | hway)
        · exact h.complete hm a rest hway
        · exact h'.complete hnone a rest hway

/-! ### Characters -/

theorem ways_oneOf (p : Char → Bool) : (oneOf p).Ways fun t c rest => p c ∧ t = c :: rest where
  sound {β t accept b} hfound := by
    cases t with
    | nil => exact nomatch hfound
    | cons c rest =>
        by_cases hc : p c
        · exact ⟨c, rest, ⟨hc, rfl⟩, by simpa [oneOf, hc] using hfound⟩
        · simp [oneOf, hc] at hfound
  complete {β t accept} hnone := by
    rintro c rest ⟨hc, rfl⟩
    simpa [oneOf, hc] using hnone

/-- What is behind a word is left behind its letters in any case. -/
theorem behind?_append {v w : Text} (h : Text.Alike v w) (rest : Text) :
    behind? w (v ++ rest) = some rest := by
  induction w generalizing v with
  | nil =>
      obtain rfl := List.map_eq_nil_iff.mp h
      rfl
  | cons a w ih =>
      cases v with
      | nil => exact nomatch h
      | cons c v =>
          obtain ⟨hc, hv⟩ := List.cons.inj h
          rw [List.cons_append, behind?, if_pos hc.symm, ih hv]

theorem ways_word (w : Text) :
    (word w).Ways fun t _ rest => ∃ v, Text.Alike v w ∧ t = v ++ rest where
  sound hfound := by
    obtain ⟨rest, hrest, ha⟩ := Option.bind_eq_some_iff.mp hfound
    obtain ⟨v, ht, hv⟩ := eq_append_of_behind? hrest
    exact ⟨(), rest, ⟨v, hv, ht⟩, ha⟩
  complete hnone := by
    rintro ⟨⟩ rest ⟨v, hv, rfl⟩
    rw [word, behind?_append hv] at hnone
    exact hnone

/-- The letters of a word are taken as they stand in the text. -/
theorem span_word {β : Type} {v w : Text} (h : Text.Alike v w) (rest : Text)
    (accept : Text × Unit → Text → Option β) :
    span (word w) β (v ++ rest) accept = accept (v, ()) rest := by
  have hspan : span (word w) β (v ++ rest) accept =
      (behind? w (v ++ rest)).bind fun left =>
        accept ((v ++ rest).take ((v ++ rest).length - left.length), ()) left := rfl
  rw [hspan, behind?_append h, Option.bind_some, List.length_append, Nat.add_sub_cancel,
    List.take_left]

theorem ways_notBefore (p : Char → Bool) :
    (notBefore p).Ways fun t _ rest => rest = t ∧ ∀ c ∈ t.head?, ¬p c where
  sound {β t accept b} hfound := by
    cases t with
    | nil => exact ⟨(), [], ⟨rfl, nofun⟩, hfound⟩
    | cons c t =>
        by_cases hc : p c
        · simp [notBefore, hc] at hfound
        · exact ⟨(), c :: t, ⟨rfl, by simpa using hc⟩, by simpa [notBefore, hc] using hfound⟩
  complete {β t accept} hnone := by
    rintro ⟨⟩ rest ⟨rfl, hhead⟩
    cases rest with
    | nil => exact hnone
    | cons c t => simpa [notBefore, hhead c rfl] using hnone

/-! ### Blanks -/

theorem sound_of_givingBack {β : Type} {accept : Text → Option β} {before rest : Text} {b : β}
    (h : givingBack accept before rest = some b) :
    ∃ passed given, before = given ++ passed ∧ accept (given.reverse ++ rest) = some b := by
  induction before generalizing rest with
  | nil => exact ⟨[], [], rfl, h⟩
  | cons c before ih =>
      rw [givingBack] at h
      cases hrest : accept rest with
      | some b' =>
          rw [hrest] at h
          exact ⟨c :: before, [], rfl, hrest.trans h⟩
      | none =>
          rw [hrest] at h
          obtain ⟨passed, given, rfl, ha⟩ := ih h
          exact ⟨passed, c :: given, rfl, by simpa using ha⟩

theorem complete_of_givingBack {β : Type} {accept : Text → Option β} {given passed rest : Text}
    (h : givingBack accept (given ++ passed) rest = none) :
    accept (given.reverse ++ rest) = none := by
  induction given generalizing rest with
  | nil =>
      cases hrest : accept rest with
      | some b => exact nomatch h.symm.trans (givingBack_of_some hrest)
      | none => exact hrest
  | cons c given ih =>
      rw [List.cons_append, givingBack] at h
      cases hrest : accept rest with
      | some b =>
          rw [hrest] at h
          exact absurd h (Option.some_ne_none b)
      | none =>
          rw [hrest] at h
          simpa using ih h

theorem ways_blanks :
    blanks.Ways fun t _ rest => ∃ passed, (∀ c ∈ passed, Text.isBlank c) ∧ t = passed ++ rest where
  sound {β t accept b} hfound := by
    obtain ⟨passed, given, hbefore, ha⟩ := sound_of_givingBack hfound
    have hrun : t.takeWhile Text.isBlank = passed.reverse ++ given.reverse := by
      rw [← List.reverse_reverse (t.takeWhile Text.isBlank), hbefore, List.reverse_append]
    refine ⟨(), _, ⟨passed.reverse, fun c hc => ?_, ?_⟩, ha⟩
    · exact List.mem_takeWhile_imp (hrun ▸ List.mem_append_left _ hc)
    · rw [← List.append_assoc, ← hrun, List.takeWhile_append_dropWhile]
  complete {β t accept} hnone := by
    rintro ⟨⟩ rest ⟨passed, hpassed, rfl⟩
    rw [blanks, List.takeWhile_append_of_pos hpassed, List.dropWhile_append_of_pos hpassed,
      List.reverse_append] at hnone
    have hrest := complete_of_givingBack hnone
    rwa [List.reverse_reverse, List.takeWhile_append_dropWhile] at hrest

theorem ways_blanks1 :
    blanks1.Ways fun t _ rest =>
      ∃ passed, passed ≠ [] ∧ (∀ c ∈ passed, Text.isBlank c) ∧ t = passed ++ rest :=
  ((ways_oneOf _).bind fun _ => ways_blanks).congr fun t _ rest => by
    constructor
    · rintro ⟨c, _, ⟨hc, rfl⟩, passed, hpassed, rfl⟩
      exact ⟨c :: passed, nofun, List.forall_mem_cons.mpr ⟨hc, hpassed⟩, rfl⟩
    · rintro ⟨passed, hne, hpassed, rfl⟩
      obtain ⟨c, passed, rfl⟩ := List.exists_cons_of_ne_nil hne
      obtain ⟨hc, hpassed⟩ := List.forall_mem_cons.mp hpassed
      exact ⟨c, _, ⟨hc, rfl⟩, passed, hpassed, rfl⟩

/-! ### Parts of a line -/

theorem ways_optional (h : m.Ways way) :
    (optional m).Ways fun t a? rest =>
      (∃ a, a? = some a ∧ way t a rest) ∨ a? = none ∧ rest = t :=
  ((h.bind fun a => Ways.pure (some a)).or (Ways.pure none)).congr fun t a? rest => by
    refine or_congr_left ⟨?_, ?_⟩
    · rintro ⟨a, _, hway, rfl, rfl⟩
      exact ⟨a, rfl, hway⟩
    · rintro ⟨a, rfl, hway⟩
      exact ⟨a, rest, hway, rfl, rfl⟩

theorem ways_ending : ending.Ways fun t _ rest => rest = t ∧ (t = [] ∨ t = ['\n']) where
  sound {β t accept b} hfound := by
    unfold ending at hfound
    split at hfound
    · rename_i hend
      exact ⟨(), t, ⟨rfl, hend⟩, hfound⟩
    · exact nomatch hfound
  complete {β t accept} hnone := by
    rintro ⟨⟩ rest ⟨rfl, hend⟩
    rwa [ending, if_pos hend] at hnone

/-- Text is read up to every place where `stop` can be read, the first one preferred. -/
theorem ways_upTo (p : Char → Bool) (h : m.Ways way) :
    (upTo p m).Ways fun t r rest =>
      ∃ left, t = r.1 ++ left ∧ (∀ c ∈ r.1, p c) ∧ way left r.2 rest where
  sound hfound := by
    obtain ⟨part, left, rfl, hpart, hstop, -⟩ := upTo_eq_some_iff.mp hfound
    obtain ⟨a, rest, hway, ha⟩ := h.sound hstop
    exact ⟨(part, a), rest, ⟨left, rfl, hpart, hway⟩, ha⟩
  complete hnone := by
    rintro ⟨part, a⟩ rest ⟨left, rfl, hpart, hway⟩
    exact h.complete (upTo_eq_none_iff.mp hnone part left rfl hpart) a rest hway

theorem ways_partUpTo (h : m.Ways way) :
    (partUpTo m).Ways fun t r rest =>
      ∃ left, t = r.1 ++ left ∧ r.1 ≠ [] ∧ (∀ c ∈ r.1, inLine c) ∧ way left r.2 rest :=
  ((ways_oneOf inLine).bind fun c => (ways_upTo inLine h).bind fun r =>
    Ways.pure (c :: r.1, r.2)).congr fun t r rest => by
    constructor
    · rintro ⟨c, _, ⟨hc, rfl⟩, r, _, ⟨left, rfl, hr, hway⟩, rfl, rfl⟩
      exact ⟨left, rfl, List.cons_ne_nil c r.1, List.forall_mem_cons.mpr ⟨hc, hr⟩, hway⟩
    · rintro ⟨left, rfl, hne, hpart, hway⟩
      obtain ⟨part, a⟩ := r
      obtain ⟨c, part, rfl⟩ := List.exists_cons_of_ne_nil hne
      obtain ⟨hc, hpart⟩ := List.forall_mem_cons.mp hpart
      exact ⟨c, part ++ left, ⟨hc, rfl⟩, (part, a), rest, ⟨left, rfl, hpart, hway⟩, rfl, rfl⟩

end CardTalk.Search
