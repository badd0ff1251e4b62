/-
How searches read a text.

What follows a search is offered a rest of the text (`Leaves`), so what a form reads at its
end is never longer than the text.  Where only one way can go on, a search is a plain
equation.  A search for a place to stop passes what it cannot stop in, and gives what the first
place gives that is accepted (`upTo_eq_some_iff`, `partUpTo_append`).
-/
import CardTalk.Text.Search
import Mathlib.Data.List.TakeWhile

namespace CardTalk

namespace Search

variable {α β γ : Type}

theorem givingBack_of_some {accept : Text → Option β} {before rest : Text} {b : β}
    (h : accept rest = some b) : givingBack accept before rest = some b := by
  cases before with
  | nil => exact h
  | cons c before => rw [givingBack, h]

/-- All blanks are passed if what follows them is accepted. -/
theorem blanks_of_some {accept : Unit → Text → Option β} {t : Text} {b : β}
    (h : accept () (t.dropWhile Text.isBlank) = some b) : blanks β t accept = some b :=
  givingBack_of_some h

/-- A single blank is passed. -/
theorem blanks1_eq {b c : Char} (hb : Text.isBlank b) (hc : ¬Text.isBlank c) (t : Text)
    (accept : Unit → Text → Option β) : blanks1 β (b :: c :: t) accept = accept () (c :: t) := by
  change (if Text.isBlank b then blanks β (c :: t) accept else none) = _
  rw [if_pos hb, blanks, List.takeWhile_cons_of_neg hc, List.dropWhile_cons_of_neg hc]
  rfl

/-- Blanks are passed up to what follows them if that is accepted. -/
theorem blanks1_of_some {passed rest : Text} {accept : Unit → Text → Option β} {b : β}
    (hne : passed ≠ []) (hpassed : ∀ c ∈ passed, Text.isBlank c)
    (hrest : ∀ c ∈ rest.head?, ¬Text.isBlank c) (h : accept () rest = some b) :
    blanks1 β (passed ++ rest) accept = some b := by
  obtain ⟨c, passed, rfl⟩ := List.exists_cons_of_ne_nil hne
  obtain ⟨hc, hpassed⟩ := List.forall_mem_cons.mp hpassed
  have hdrop : rest.dropWhile Text.isBlank = rest := by
    cases rest with
    | nil => rfl
    | cons d rest => exact List.dropWhile_cons_of_neg (hrest d rfl)
  change (if Text.isBlank c then blanks β (passed ++ rest) accept else none) = _
  rw [if_pos hc]
  refine blanks_of_some ?_
  rw [List.dropWhile_append_of_pos hpassed, hdrop, h]

/-- What cannot be read is left out where it is optional. -/
theorem optional_eq {m : Search α} {t : Text} {accept : Option α → Text → Option β}
    (h : m β t (fun a rest => accept (some a) rest) = none) :
    optional m β t accept = accept none t := by
  have hsome : (some <$> m : Search (Option α)) β t accept = none := h
  unfold optional Search.or
  rw [hsome]
  rfl

/-- The first of two searches is enough. -/
theorem or_of_some {m n : Search α} {t : Text} {accept : α → Text → Option β} {b : β}
    (h : m β t accept = some b) : Search.or m n β t accept = some b := by
  rw [Search.or, h]

/-- Of two searches the first one is preferred also for the part that it reads. -/
theorem span_or (m n : Search α) : span (Search.or m n) = Search.or (span m) (span n) := rfl

/-- A word is read where none of those before it can be. -/
theorem anyOf_of_some (before : List (Text × α)) (w : Text × α) {after : List (Text × α)} {t : Text}
    {accept : α → Text → Option β} {b : β} (hbefore : ∀ w' ∈ before, behind? w'.1 t = none)
    (h : word w.1 β t (fun _ rest => accept w.2 rest) = some b) :
    anyOf (before ++ w :: after) β t accept = some b := by
  have hnone : before.findSome? (fun w => word w.1 β t fun _ rest => accept w.2 rest) = none := by
    refine List.findSome?_eq_none_iff.mpr fun w' hw' => ?_
    rw [word, hbefore w' hw']
    rfl
  rw [anyOf, List.findSome?_append, hnone, List.findSome?_cons, h]
  rfl

theorem forall_inLine {t : Text} (h : '\n' ∉ t) : ∀ c ∈ t, inLine c := by
  intro c hc
  simpa [inLine] using fun heq : c = '\n' => h (heq ▸ hc)

/-- A text on one line is its own rest. -/
theorem rest_eq {t : Text} (h : ∀ c ∈ t, inLine c) (accept : Text → Text → Option β) :
    rest β t accept = accept t [] := by
  rw [rest, List.dropWhile_eq_nil_iff.mpr h, List.takeWhile_eq_self_iff.mpr h]
  rfl

theorem rest1_eq {t : Text} (hne : t ≠ []) (h : ∀ c ∈ t, inLine c)
    (accept : Text → Text → Option β) : rest1 β t accept = accept t [] := by
  have hempty : (!t.isEmpty) = true := by rw [List.isEmpty_eq_false_iff.mpr hne]; rfl
  change rest β t (fun line left => if !line.isEmpty then accept line left else none) = _
  rw [rest_eq h, if_pos hempty]

/-- A run ends where its property does. -/
theorem run1_eq {p : Char → Bool} {t rest : Text} (hne : t ≠ []) (h : ∀ c ∈ t, p c)
    (hrest : ∀ c ∈ rest.head?, ¬p c) (accept : Text → Text → Option β) :
    run1 p β (t ++ rest) accept = accept t rest := by
  have hempty : (!t.isEmpty) = true := by rw [List.isEmpty_eq_false_iff.mpr hne]; rfl
  have hnone : rest.takeWhile p = [] ∧ rest.dropWhile p = rest := by
    cases rest with
    | nil => exact ⟨rfl, rfl⟩
    | cons c rest =>
        have hc := hrest c rfl
        exact ⟨List.takeWhile_cons_of_neg hc, List.dropWhile_cons_of_neg hc⟩
  have hrun : (t ++ rest).takeWhile p = t ∧ (t ++ rest).dropWhile p = rest := by
    rw [List.takeWhile_append_of_pos h, List.dropWhile_append_of_pos h, hnone.1, hnone.2,
      List.append_nil]
    exact ⟨rfl, rfl⟩
  change (if !((t ++ rest).takeWhile p).isEmpty then _ else none) = _
  rw [hrun.1, hrun.2, if_pos hempty]

/-- What is left behind a word is what follows its letters in any case. -/
theorem eq_append_of_behind? {w t rest : Text} (h : behind? w t = some rest) :
    ∃ v, t = v ++ rest ∧ v.map Text.fold = w.map Text.fold := by
  induction w generalizing t with
  | nil => exact ⟨[], Option.some.inj h, rfl⟩
  | cons a w ih =>
      cases t with
      | nil => exact nomatch h
      | cons c t =>
          rw [behind?] at h
          split at h
          · rename_i hfold
            obtain ⟨v, rfl, hv⟩ := ih h
            exact ⟨c :: v, rfl, by rw [List.map_cons, List.map_cons, hv, hfold]⟩
          · exact nomatch h

/-- A search for a place to stop passes what it cannot stop in. -/
theorem upToFrom_append {p : Char → Bool} {stop : Search α} {accept : Text × α → Text → Option β}
    (t : Text) : ∀ (u before : Text), (∀ c ∈ u, p c) →
      (∀ c u' before, c :: u' <:+ u →
        stop β (c :: u' ++ t) (fun a rest => accept (before, a) rest) = none) →
      upToFrom p stop accept before (u ++ t) = upToFrom p stop accept (u.reverse ++ before) t := by
  intro u
  induction u with
  | nil => intros; rfl
  | cons c u ih =>
      intro before hp hstop
      have hhere := hstop c u before.reverse (List.suffix_refl _)
      have hrest := ih (c :: before) (fun d hd => hp d (List.mem_cons_of_mem _ hd))
        fun d u' before' hsuffix => hstop d u' before' (hsuffix.trans (List.suffix_cons _ _))
      rw [List.cons_append] at hhere ⊢
      rw [upToFrom, hhere, if_pos (hp c List.mem_cons_self), hrest, List.reverse_cons,
        List.append_assoc]
      rfl

/-! ### The first place to stop -/

section

variable {p : Char → Bool} {stop : Search α}

theorem upToFrom_eq (accept : Text × α → Text → Option β) (before t : Text) :
    upToFrom p stop accept before t =
      upTo p stop β t fun r rest => accept (before.reverse ++ r.1, r.2) rest := by
  suffices h : ∀ accept' : Text × α → Text → Option β, ∀ before' : Text,
      (∀ part a rest, accept (before.reverse ++ part, a) rest =
        accept' (before'.reverse ++ part, a) rest) →
      upToFrom p stop accept before t = upToFrom p stop accept' before' t from
    h _ [] fun _ _ _ => rfl
  intro accept' before' haccept
  induction t generalizing before before' with
  | nil =>
      have hnil := haccept []
      simp only [List.append_nil] at hnil
      simp only [upToFrom, hnil]
  | cons c t ih =>
      have hnil := haccept []
      have hcons : ∀ part a rest, accept ((c :: before).reverse ++ part, a) rest =
          accept' ((c :: before').reverse ++ part, a) rest := by
        simp only [List.reverse_cons, List.append_assoc, haccept, implies_true]
      simp only [List.append_nil] at hnil
      simp only [upToFrom, hnil, ih _ _ hcons]

variable {accept : Text × α → Text → Option β}

theorem upTo_cons (c : Char) (t : Text) :
    upTo p stop β (c :: t) accept =
      (stop β (c :: t) fun a rest => accept ([], a) rest).or
        (if p c then upTo p stop β t fun r rest => accept (c :: r.1, r.2) rest else none) := by
  have hrest : upToFrom p stop accept [c] t = _ := upToFrom_eq accept [c] t
  rw [upTo, upToFrom, hrest, List.reverse_nil]
  cases stop β (c :: t) fun a rest => accept ([], a) rest with
  | some b => rfl
  | none => rfl

theorem upTo_eq_none_iff {t : Text} :
    upTo p stop β t accept = none ↔
      ∀ part rest, t = part ++ rest → (∀ c ∈ part, p c) →
        stop β rest (fun a left => accept (part, a) left) = none := by
  induction t generalizing accept with
  | nil =>
      constructor
      · rintro h part rest heq -
        obtain ⟨rfl, rfl⟩ := List.append_eq_nil_iff.mp heq.symm
        exact h
      · exact fun h => h [] [] rfl nofun
  | cons c t ih =>
      rw [upTo_cons, Option.or_eq_none_iff]
      constructor
      · rintro ⟨hhere, hlater⟩ part rest heq hpart
        cases part with
        | nil =>
            obtain rfl : c :: t = rest := heq
            exact hhere
        | cons d part =>
            obtain ⟨rfl, rfl⟩ := List.cons.inj heq
            obtain ⟨hc, hpart⟩ := List.forall_mem_cons.mp hpart
            rw [if_pos hc] at hlater
            exact ih.mp hlater part rest rfl hpart
      · intro h
        refine ⟨h [] (c :: t) rfl nofun, ?_⟩
        split
        · rename_i hc
          exact ih.mpr fun part rest heq hpart =>
            h (c :: part) rest (congrArg _ heq) (List.forall_mem_cons.mpr ⟨hc, hpart⟩)
        · rfl

/-- What is read up to a place to stop is what the first such place gives. -/
theorem upTo_eq_some_iff {t : Text} {b : β} :
    upTo p stop β t accept = some b ↔
      ∃ part rest, t = part ++ rest ∧ (∀ c ∈ part, p c) ∧
        stop β rest (fun a left => accept (part, a) left) = some b ∧
        ∀ part' rest', t = part' ++ rest' → part'.length < part.length →
          stop β rest' (fun a left => accept (part', a) left) = none := by
  induction t generalizing accept with
  | nil =>
      constructor
      · exact fun h => ⟨[], [], rfl, nofun, h, fun _ _ _ hlt => absurd hlt (Nat.not_lt_zero _)⟩
      · rintro ⟨part, rest, heq, -, hstop, -⟩
        obtain ⟨rfl, rfl⟩ := List.append_eq_nil_iff.mp heq.symm
        exact hstop
  | cons c t ih =>
      rw [upTo_cons, Option.or_eq_some_iff]
      constructor
      · rintro (hhere | ⟨hhere, hlater⟩)
        · exact ⟨[], c :: t, rfl, nofun, hhere, fun _ _ _ hlt => absurd hlt (Nat.not_lt_zero _)⟩
        · split at hlater
          · rename_i hc
            obtain ⟨part, rest, rfl, hpart, hstop, hfirst⟩ := ih.mp hlater
            refine ⟨c :: part, rest, rfl, List.forall_mem_cons.mpr ⟨hc, hpart⟩, hstop, ?_⟩
            intro part' rest' heq hlt
            cases part' with
            | nil =>
                obtain rfl : c :: (part ++ rest) = rest' := heq
                exact hhere
            | cons d part' =>
                obtain ⟨rfl, htail⟩ := List.cons.inj heq
                exact hfirst part' rest' htail (Nat.lt_of_succ_lt_succ hlt)
          · exact nomatch hlater
      · rintro ⟨part, rest, heq, hpart, hstop, hfirst⟩
        cases part with
        | nil =>
            obtain rfl : c :: t = rest := heq
            exact .inl hstop
        | cons d part =>
            obtain ⟨rfl, rfl⟩ := List.cons.inj heq
            obtain ⟨hc, hpart⟩ := List.forall_mem_cons.mp hpart
            refine .inr ⟨hfirst [] _ rfl (Nat.zero_lt_succ _), ?_⟩
            rw [if_pos hc]
            exact ih.mpr ⟨part, rest, rfl, hpart, hstop, fun part' rest' heq' hlt =>
              hfirst (c :: part') rest' (congrArg _ heq') (Nat.succ_lt_succ hlt)⟩

/-- What is read up to a place to stop, at least one character, is what the first such place behind
the first character gives. -/
theorem partUpTo_eq_some_iff {accept : Text × α → Text → Option β} {t : Text} {b : β} :
    partUpTo stop β t accept = some b ↔
      ∃ part rest, t = part ++ rest ∧ part ≠ [] ∧ (∀ c ∈ part, inLine c) ∧
        stop β rest (fun a left => accept (part, a) left) = some b ∧
        ∀ part' rest', t = part' ++ rest' → part' ≠ [] → part'.length < part.length →
          stop β rest' (fun a left => accept (part', a) left) = none := by
  cases t with
  | nil =>
      refine ⟨nofun, ?_⟩
      rintro ⟨part, rest, heq, hne, -⟩
      exact absurd (List.append_eq_nil_iff.mp heq.symm).1 hne
  | cons c t =>
      have hpart : partUpTo stop β (c :: t) accept = some b ↔
          inLine c ∧ upTo inLine stop β t (fun r rest => accept (c :: r.1, r.2) rest) = some b := by
        change (if inLine c then upTo inLine stop β t _ else none) = some b ↔ _
        split
        · exact (and_iff_right ‹_›).symm
        · exact iff_of_false nofun fun h => ‹¬_› h.1
      rw [hpart, upTo_eq_some_iff]
      constructor
      · rintro ⟨hc, part, rest, rfl, hline, hstop, hfirst⟩
        refine ⟨c :: part, rest, rfl, List.cons_ne_nil c part, List.forall_mem_cons.mpr ⟨hc, hline⟩,
          hstop, fun part' rest' heq hne hlt => ?_⟩
        obtain ⟨d, part', rfl⟩ := List.exists_cons_of_ne_nil hne
        obtain ⟨rfl, htail⟩ := List.cons.inj heq
        exact hfirst part' rest' htail (Nat.lt_of_succ_lt_succ hlt)
      · rintro ⟨part, rest, heq, hne, hline, hstop, hfirst⟩
        obtain ⟨d, part, rfl⟩ := List.exists_cons_of_ne_nil hne
        obtain ⟨rfl, rfl⟩ := List.cons.inj heq
        obtain ⟨hc, hline⟩ := List.forall_mem_cons.mp hline
        exact ⟨hc, part, rest, rfl, hline, hstop, fun part' rest' heq' hlt =>
          hfirst (c :: part') rest' (congrArg _ heq') (List.cons_ne_nil c part')
            (Nat.succ_lt_succ hlt)⟩

/-- A text is read whole if what follows is accepted behind it and nowhere within it. -/
theorem partUpTo_append {accept : Text × α → Text → Option β} {s t : Text} {b : β} (hne : s ≠ [])
    (hline : ∀ c ∈ s, inLine c) (hstop : stop β t (fun a left => accept (s, a) left) = some b)
    (hwithin : ∀ front x, front ≠ [] → x ≠ [] → s = front ++ x →
      stop β (x ++ t) (fun a left => accept (front, a) left) = none) :
    partUpTo stop β (s ++ t) accept = some b := by
  refine partUpTo_eq_some_iff.mpr
    ⟨s, t, rfl, hne, hline, hstop, fun front rest heq hfront hlt => ?_⟩
  rcases List.append_eq_append_iff.mp heq with ⟨x, hs, -⟩ | ⟨x, hs, rfl⟩
  · rw [hs, List.length_append] at hlt
    omega
  · refine hwithin front x hfront ?_ hs
    rintro rfl
    rw [hs, List.append_nil] at hlt
    exact Nat.lt_irrefl _ hlt

end

/-! ### Rests -/

/-- Whatever comes after the search is offered a rest of the text. -/
def Leaves (m : Search α) : Prop :=
  ∀ ⦃β : Type⦄ ⦃t : Text⦄ ⦃accept : α → Text → Option β⦄ ⦃b : β⦄,
    m β t accept = some b → ∃ a rest, rest <:+ t ∧ accept a rest = some b

theorem leaves_bind {m : Search α} {f : α → Search γ} (hm : m.Leaves)
    (hf : ∀ a, (f a).Leaves) : (m >>= f).Leaves := by
  intro β t accept b h
  obtain ⟨a, rest, hrest, ha⟩ := hm h
  obtain ⟨a', rest', hrest', ha'⟩ := hf a ha
  exact ⟨a', rest', hrest'.trans hrest, ha'⟩

theorem leaves_word (w : Text) : (word w).Leaves := by
  intro β t accept b h
  obtain ⟨rest, hrest, haccept⟩ := Option.bind_eq_some_iff.mp h
  obtain ⟨v, rfl, -⟩ := eq_append_of_behind? hrest
  exact ⟨(), rest, List.suffix_append v rest, haccept⟩

theorem leaves_oneOf (p : Char → Bool) : (oneOf p).Leaves := by
  intro β t accept b h
  cases t with
  | nil => exact nomatch h
  | cons c rest =>
      by_cases hc : p c
      · exact ⟨c, rest, List.suffix_cons c rest, by simpa [oneOf, hc] using h⟩
      · simp [oneOf, hc] at h

theorem suffix_of_givingBack {β : Type} {accept : Text → Option β} {before rest : Text} {b : β}
    (h : givingBack accept before rest = some b) :
    ∃ left, left <:+ before.reverse ++ rest ∧ accept left = some b := by
  induction before generalizing rest with
  | nil => exact ⟨rest, List.suffix_refl rest, h⟩
  | cons c before ih =>
      rw [givingBack] at h
      cases haccept : accept rest with
      | some b' =>
          rw [haccept] at h
          exact ⟨rest, List.suffix_append _ rest, haccept.trans h⟩
      | none =>
          rw [haccept] at h
          obtain ⟨left, hleft, ha⟩ := ih h
          refine ⟨left, ?_, ha⟩
          rwa [List.reverse_cons, List.append_assoc]

theorem leaves_blanks : blanks.Leaves := by
  intro β t accept b h
  obtain ⟨left, hleft, haccept⟩ := suffix_of_givingBack h
  rw [List.reverse_reverse, List.takeWhile_append_dropWhile] at hleft
  exact ⟨(), left, hleft, haccept⟩

theorem leaves_blanks1 : blanks1.Leaves := leaves_bind (leaves_oneOf _) fun _ => leaves_blanks

theorem leaves_upTo {p : Char → Bool} {stop : Search α} (hstop : stop.Leaves) :
    (upTo p stop).Leaves := by
  intro β t accept b h
  suffices hfrom : ∀ before, upToFrom p stop accept before t = some b →
      ∃ a rest, rest <:+ t ∧ accept a rest = some b from hfrom [] h
  clear h
  induction t with
  | nil =>
      intro before h
      obtain ⟨a, rest, hrest, haccept⟩ := hstop h
      exact ⟨_, rest, hrest, haccept⟩
  | cons c t ih =>
      intro before h
      rw [upToFrom] at h
      split at h
      · rename_i b' hhere
        obtain ⟨a, rest, hrest, haccept⟩ := hstop hhere
        exact ⟨_, rest, hrest, haccept.trans h⟩
      · split at h
        · obtain ⟨a, rest, hrest, haccept⟩ := ih _ h
          exact ⟨a, rest, hrest.trans (List.suffix_cons c t), haccept⟩
        · exact nomatch h

theorem accept_of_ending {t : Text} {accept : Unit → Text → Option β} {b : β}
    (h : ending β t accept = some b) : accept () t = some b := by
  unfold ending at h
  split at h
  · exact h
  · exact nomatch h

/-- What is read up to the end is a beginning of the text. -/
theorem accept_of_rest {t : Text} {accept : Text → Text → Option β} {b : β}
    (h : rest β t accept = some b) : accept (t.takeWhile inLine) (t.dropWhile inLine) = some b :=
  accept_of_ending h

theorem optional_cases {m : Search α} {t : Text} {accept : Option α → Text → Option β} {b : β}
    (h : optional m β t accept = some b) :
    m β t (fun a rest => accept (some a) rest) = some b ∨ accept none t = some b := by
  cases hm : m β t fun a rest => accept (some a) rest with
  | none => exact .inr ((optional_eq hm).symm.trans h)
  | some b' =>
      have hsome : (some <$> m : Search (Option α)) β t accept = some b' := hm
      unfold optional Search.or at h
      rw [hsome] at h
      exact .inl h

end Search

end CardTalk
