/-
Texts that begin with a number.

Whether a text begins with a number shows in a few characters after its blanks: a digit, or a
point before a digit, either of them after at most one sign.  Lower case changes none of these
characters and makes none of them, trimming takes away blanks only, and a colour begins with
neither; so whether a text begins with a number can be told from the form of it that is compared
with others.
-/
import CardTalk.Expr.Comparison
import CardTalk.Proofs.Text.Blank

namespace CardTalk.Number

open Text

/-- Whether a number begins here, its sign aside. -/
def opens : Text → Bool
  | [] => false
  | c :: rest => isDecimal c || (c == '.' && rest.head?.any isDecimal)

/-- Whether a number begins here, after blanks and a sign. -/
def starts (t : Text) : Bool := opens (readSign (trimStart t)).2

theorem isEmpty_takeWhile (t : Text) :
    (t.takeWhile isDecimal).isEmpty = !t.head?.any isDecimal := by
  cases t with
  | nil => rfl
  | cons c rest => by_cases hc : isDecimal c <;> simp [hc]

theorem isSome_readPlaces (t : Text) : (readPlaces t).isSome = opens t := by
  cases t with
  | nil => rfl
  | cons c rest =>
      unfold readPlaces readDigits opens
      by_cases hc : isDecimal c
      · have hwhole : ((c :: rest).takeWhile isDecimal).isEmpty = false := by
          rw [isEmpty_takeWhile]
          simp [hc]
        simp only [hwhole, hc]
        split <;> simp
      · simp only [List.takeWhile_cons_of_neg hc, List.dropWhile_cons_of_neg hc]
        by_cases hpoint : c = '.'
        · subst hpoint
          simp only [isEmpty_takeWhile]
          cases rest.head?.any isDecimal <;> simp [hc]
        · split
          · rename_i heq
            exact absurd (List.cons.inj heq).1 hpoint
          · simp [hc, hpoint]

theorem isSome_leading (t : Text) : (leading? t).isSome = starts t := by
  unfold leading? read? starts
  generalize readSign (trimStart t) = signed
  obtain ⟨negative, rest⟩ := signed
  show Option.isSome (Option.map _ (readPlaces rest >>= _)) = opens rest
  rw [← isSome_readPlaces]
  cases readPlaces rest <;> rfl

/-! ### Lower case -/

/-- Whether a character says where a number begins. -/
def isMark (c : Char) : Bool := isBlank c || isDecimal c || c == '+' || c == '-' || c == '.'

/-- The code points of these characters, as closed ranges. -/
def markRanges : List (Nat × Nat) :=
  blankPoints.map (fun n => (n, n)) ++ [(43, 43), (45, 46), (48, 57)]
    ++ decimalZeros.map fun first => (first, first + 9)

theorem exists_range_of_isDecimal {c : Char} (h : isDecimal c) :
    ∃ r ∈ markRanges, r.1 ≤ c.toNat ∧ c.toNat ≤ r.2 := by
  unfold isDecimal digitValue? at h
  split at h
  · rename_i hascii
    have hpoints : ∀ n < 128, (Char.ofNat n).isDigit → 48 ≤ n ∧ n ≤ 57 := by decide +kernel
    have hc := hpoints c.toNat hascii
    rw [Char.ofNat_toNat] at hc
    have hdigit : c.isDigit := by
      by_contra hno
      rw [if_neg hno] at h
      exact nomatch h
    exact ⟨(48, 57), by decide, hc hdigit⟩
  · rw [Option.isSome_map] at h
    obtain ⟨first, hfirst⟩ := Option.isSome_iff_exists.mp h
    have hrange := List.find?_some hfirst
    simp only [Bool.and_eq_true, decide_eq_true_eq] at hrange
    refine ⟨(first, first + 9), ?_, hrange⟩
    exact List.mem_append_right _ (List.mem_map_of_mem (List.mem_of_find?_eq_some hfirst))

theorem exists_range_of_isMark {c : Char} (h : isMark c) :
    ∃ r ∈ markRanges, r.1 ≤ c.toNat ∧ c.toNat ≤ r.2 := by
  simp only [isMark, Bool.or_eq_true, beq_iff_eq] at h
  rcases h with (((hblank | hdecimal) | rfl) | rfl) | rfl
  · refine ⟨(c.toNat, c.toNat), ?_, Nat.le_refl _, Nat.le_refl _⟩
    refine List.mem_append_left _ (List.mem_append_left _ ?_)
    exact List.mem_map.mpr ⟨_, mem_blankPoints hblank, rfl⟩
  · exact exists_range_of_isDecimal hdecimal
  · exact ⟨(43, 43), by decide, by decide, by decide⟩
  · exact ⟨(45, 46), by decide, by decide, by decide⟩
  · exact ⟨(45, 46), by decide, by decide, by decide⟩

/-- Whether a run of letters and their lower-case forms both lie outside a range. -/
def avoids (run : Nat × Nat × Nat × Nat) (r : Nat × Nat) : Bool :=
  (Nat.blt r.2 run.1 || Nat.blt run.2.1 r.1) &&
    (Nat.blt r.2 run.2.2.2 || Nat.blt (run.2.2.2 + (run.2.1 - run.1)) r.1)

theorem all_lowerRuns_avoid : lowerRuns.all fun run => markRanges.all (avoids run) := by
  decide +kernel

/-- No letter beyond the first 128 is or becomes one of these characters in lower case. -/
theorem eq_of_isMark_mapRuns {c d : Char} (hd : d = Char.ofNat (mapRuns lowerRuns c.toNat))
    (h : isMark c ∨ isMark d) : d = c := by
  subst hd
  rw [mapRuns] at h ⊢
  cases hfind : lowerRuns.find? fun r => r.1 ≤ c.toNat && c.toNat ≤ r.2.1 &&
    (c.toNat - r.1) % r.2.2.1 == 0 with
  | none => exact Char.ofNat_toNat c
  | some run =>
      obtain ⟨first, last, step, image⟩ := run
      rw [hfind] at h
      dsimp only at h
      have hrange := List.find?_some hfind
      have havoids := List.all_eq_true.mp
        (List.all_eq_true.mp all_lowerRuns_avoid _ (List.mem_of_find?_eq_some hfind))
      simp only [Bool.and_eq_true, decide_eq_true_eq] at hrange
      simp only [avoids, Bool.and_eq_true, Bool.or_eq_true, Nat.blt_eq] at havoids
      rcases h with hmark | hmark
      · obtain ⟨r, hr, hlow, hhigh⟩ := exists_range_of_isMark hmark
        have havoid := havoids r hr
        omega
      · obtain ⟨r, hr, hlow, hhigh⟩ := exists_range_of_isMark hmark
        have havoid := havoids r hr
        rcases toNat_ofNat_cases (image + (c.toNat - first)) with hpoint | hzero
        · omega
        · have hfirst : Char.ofNat (image + (c.toNat - first)) = Char.ofNat 0 := by
            rw [← hzero, Char.ofNat_toNat]
          rw [hfirst] at hmark
          exact absurd hmark (by decide)

theorem lowerChar_of_isMark {c : Char} (h : isMark c ∨ isMark (lowerChar c)) :
    lowerChar c = c := by
  unfold lowerChar at h ⊢
  by_cases hascii : c.val < 128
  · have hpoints : ∀ n < 128, isMark (Char.ofNat n) ∨ isMark (Char.ofNat n).toLower →
        (Char.ofNat n).toLower = Char.ofNat n := by
      decide +kernel
    have hc := hpoints c.toNat hascii
    rw [Char.ofNat_toNat] at hc
    rw [if_pos hascii] at h ⊢
    exact hc h
  · rw [if_neg hascii] at h ⊢
    by_cases hdotted : c = 'İ'
    · subst hdotted
      exact absurd h (by decide)
    · rw [if_neg hdotted] at h ⊢
      exact eq_of_isMark_mapRuns rfl h

/-- Lower case keeps these characters and makes none of them. -/
theorem lower_go_cons (before : Text) (c : Char) (rest : Text) :
    ∃ d more, lower.go before (c :: rest) = d :: more ∧ isMark d = isMark c ∧
      (isMark c → d = c ∧ more = lower.go (c :: before) rest) := by
  rw [lower.go]
  by_cases hsigma : c = 'Σ'
  · subst hsigma
    refine ⟨_, _, by rw [if_pos rfl]; rfl, ?_, fun h => absurd h (by decide)⟩
    unfold lowerSigma
    split <;> decide
  · rw [if_neg hsigma]
    by_cases hdotted : c = 'İ'
    · subst hdotted
      exact ⟨_, _, rfl, by decide, fun h => absurd h (by decide)⟩
    · have hform : lowerForm c = [lowerChar c] := if_neg hdotted
      rw [hform]
      refine ⟨_, _, rfl, ?_, fun h => ⟨lowerChar_of_isMark (.inl h), rfl⟩⟩
      rw [Bool.eq_iff_iff]
      constructor
      · intro h
        rwa [lowerChar_of_isMark (.inr h)] at h
      · intro h
        rwa [lowerChar_of_isMark (.inl h)]

/-! ### Starts -/

theorem starts_cons (c : Char) (rest : Text) :
    starts (c :: rest) =
      if isBlank c then starts rest
      else if c = '-' ∨ c = '+' then opens rest
      else opens (c :: rest) := by
  unfold starts trimStart
  by_cases hblank : isBlank c
  · rw [if_pos hblank, List.dropWhile_cons_of_pos hblank]
  · rw [if_neg hblank, List.dropWhile_cons_of_neg hblank]
    by_cases hminus : c = '-'
    · subst hminus
      rfl
    · by_cases hplus : c = '+'
      · subst hplus
        rfl
      · rw [if_neg (by simp [hminus, hplus])]
        congr 1
        unfold readSign
        split
        · exact absurd (List.cons.inj ‹_›).1 hminus
        · exact absurd (List.cons.inj ‹_›).1 hplus
        · rfl

/-- A character that says nothing of numbers begins none. -/
theorem opens_of_not_isMark {c : Char} {rest : Text} (h : isMark c = false) :
    opens (c :: rest) = false ∧ starts (c :: rest) = false := by
  simp only [isMark, Bool.or_eq_false_iff, beq_eq_false_iff_ne] at h
  obtain ⟨⟨⟨⟨hblank, hdecimal⟩, hplus⟩, hminus⟩, hpoint⟩ := h
  have hopens : opens (c :: rest) = false := by simp [opens, hdecimal, hpoint]
  exact ⟨hopens, by simp [starts_cons, hblank, hminus, hplus, hopens]⟩

theorem isDecimal_head_lower_go (before t : Text) :
    (lower.go before t).head?.any isDecimal = t.head?.any isDecimal := by
  cases t with
  | nil => rfl
  | cons c rest =>
      obtain ⟨d, more, hgo, hmark, hkept⟩ := lower_go_cons before c rest
      rw [hgo]
      by_cases hc : isMark c
      · obtain ⟨rfl, -⟩ := hkept hc
        rfl
      · have hno : ∀ e : Char, isMark e = false → isDecimal e = false := fun e he => by
          simp only [isMark, Bool.or_eq_false_iff] at he
          exact he.1.1.1.2
        have hc := Bool.eq_false_iff.mpr hc
        simp [hno c hc, hno d (hmark.trans hc)]

theorem opens_lower_go (before t : Text) : opens (lower.go before t) = opens t := by
  cases t with
  | nil => rfl
  | cons c rest =>
      obtain ⟨d, more, hgo, hmark, hkept⟩ := lower_go_cons before c rest
      rw [hgo]
      by_cases hc : isMark c
      · obtain ⟨rfl, rfl⟩ := hkept hc
        rw [opens, opens, isDecimal_head_lower_go]
      · have hc := Bool.eq_false_iff.mpr hc
        rw [(opens_of_not_isMark hc).1, (opens_of_not_isMark (hmark.trans hc)).1]

theorem starts_lower_go (before t : Text) : starts (lower.go before t) = starts t := by
  induction t generalizing before with
  | nil => rfl
  | cons c rest ih =>
      have hopens := opens_lower_go before (c :: rest)
      obtain ⟨d, more, hgo, hmark, hkept⟩ := lower_go_cons before c rest
      rw [hgo] at hopens ⊢
      by_cases hc : isMark c
      · obtain ⟨rfl, rfl⟩ := hkept hc
        rw [starts_cons, starts_cons, ih, opens_lower_go, hopens]
      · have hc := Bool.eq_false_iff.mpr hc
        rw [(opens_of_not_isMark hc).2, (opens_of_not_isMark (hmark.trans hc)).2]

/-! ### Trimmed texts and colours -/

theorem opens_append_blanks {blanks : Text} (h : ∀ c ∈ blanks, isBlank c) (t : Text) :
    opens (t ++ blanks) = opens t := by
  have hno : ∀ c, isBlank c → ¬isDecimal c ∧ c ≠ '.' := fun c hc =>
    forall_isBlank (P := fun c => ¬isDecimal c ∧ c ≠ '.') (by decide +kernel) hc
  match t, blanks with
  | t, [] => rw [List.append_nil]
  | [], c :: blanks =>
      obtain ⟨hdecimal, hpoint⟩ := hno c (h c List.mem_cons_self)
      simp [opens, hdecimal, hpoint]
  | [c], d :: blanks =>
      obtain ⟨hdecimal, -⟩ := hno d (h d List.mem_cons_self)
      simp [opens, hdecimal]
  | c :: d :: rest, blanks => rfl

theorem starts_append_blanks {blanks : Text} (h : ∀ c ∈ blanks, isBlank c) (t : Text) :
    starts (t ++ blanks) = starts t := by
  induction t with
  | nil =>
      have hnone : trimStart blanks = [] := List.dropWhile_eq_nil_iff.mpr h
      rw [List.nil_append, starts, hnone]
      rfl
  | cons c t ih =>
      have hopens := opens_append_blanks h (c :: t)
      rw [List.cons_append] at hopens ⊢
      rw [starts_cons, starts_cons, ih, opens_append_blanks h, hopens]

theorem starts_trim (t : Text) : starts (trim t) = starts t := by
  obtain ⟨before, after, hbefore, hafter, ht⟩ := exists_blanks_around t
  have hblanks : ∀ blanks u : Text, (∀ c ∈ blanks, isBlank c) →
      starts (blanks ++ u) = starts u := by
    intro blanks u h
    induction blanks with
    | nil => rfl
    | cons c blanks ih =>
        rw [List.cons_append, starts_cons, if_pos (h c List.mem_cons_self)]
        exact ih fun d hd => h d (List.mem_cons_of_mem _ hd)
  conv => rhs; rw [ht]
  rw [starts_append_blanks hafter, hblanks before _ hbefore]

theorem starts_canonical (t : Text) : starts (Color.canonical t) = starts t := by
  have hno : ∀ c : Char, isMark c = false → ∀ u v : Text, starts (c :: u) = starts (c :: v) :=
    fun c hc u v => by rw [(opens_of_not_isMark hc).2, (opens_of_not_isMark hc).2]
  unfold Color.canonical
  split
  · rename_i hrgb
    obtain ⟨rest, rfl⟩ := List.isPrefixOf_iff_prefix.mp hrgb
    exact hno 'r' (by decide) _ _
  · split
    · exact hno '#' (by decide) _ _
    · rfl

/-- Whether a text begins with a number can be told from the form of it that is compared. -/
theorem isSome_leading_folded (t : Text) :
    (leading? (Comparison.folded t)).isSome = (leading? t).isSome := by
  rw [isSome_leading, isSome_leading, Comparison.folded, starts_canonical, starts_trim, lower,
    starts_lower_go]

end CardTalk.Number
