/-
Strings as tokens, and strings as the other scanners see them.

Comments and separating words are looked for with the quotes followed one character at a
time; the scanner of expressions takes strings as tokens and lets words run on over
apostrophes.  The two agree on a line exactly when every apostrophe that a word runs on over
comes after a letter, a digit or an underscore: `stringMarks_eq_marks_iff`.  Words have other
parts too, and behind one of those, or behind an apostrophe, the first reading sees an opening
quote where the second one goes on with the word: `stringMarks_ne_marks`.

What both scanners of lines see as quoted is `Quote.marks` (`beforeComment_marks`,
`split?_marks`).
-/
import CardTalk.Proofs.Expr.Layout
import CardTalk.Script.Separator
import CardTalk.Script.Statement

namespace CardTalk

open Text

/-! ### Quotes one character at a time -/

namespace Quote

theorem marks_go_cons (current previous : Option Char) (c : Char) (t : Text) :
    marks.go current previous (c :: t) =
      covers current previous c :: marks.go (after current previous c) (some c) t := rfl

/-- The last character of what is passed, or the one before it. -/
theorem getLast?_or_cons (c : Char) (t : Text) (previous : Option Char) :
    t.getLast?.or (some c) = (c :: t).getLast?.or previous := by
  simp [List.getLast?_cons, Option.or_some]

/-- Inside a string everything up to its closing quote belongs to it. -/
theorem marks_go_inside {q : Char} {v : Text} (hv : q ∉ v) (previous : Option Char) (rest : Text) :
    marks.go (some q) previous (v ++ rest) =
      List.replicate v.length true ++ marks.go (some q) (v.getLast?.or previous) rest := by
  induction v generalizing previous with
  | nil => rfl
  | cons c v ih =>
      have hc : c ≠ q := fun h => hv (h ▸ List.mem_cons_self)
      have hstep : after (some q) previous c = some q := if_neg hc
      rw [List.cons_append, marks_go_cons, hstep, ih fun h => hv (List.mem_cons_of_mem _ h),
        getLast?_or_cons c v previous]
      rfl

theorem marks_go_unclosed {q : Char} {v : Text} {previous : Option Char} (hq : opens previous q)
    (hv : q ∉ v) : marks.go none previous (q :: v) = List.replicate (q :: v).length true := by
  have hinside := marks_go_inside hv (some q) []
  have hnil : ∀ p, marks.go (some q) p [] = [] := fun _ => rfl
  rw [List.append_nil, hnil, List.append_nil] at hinside
  rw [marks_go_cons, after, if_pos hq, hinside]
  simp [covers, hq, List.replicate_succ]

theorem marks_go_string {q : Char} {v : Text} {previous : Option Char} (hq : opens previous q)
    (hv : q ∉ v) (rest : Text) :
    marks.go none previous (q :: v ++ [q] ++ rest) =
      List.replicate (q :: v ++ [q]).length true ++ marks.go none (some q) rest := by
  have hclose : after (some q) (v.getLast?.or (some q)) q = none := if_pos rfl
  rw [List.append_assoc, List.cons_append, marks_go_cons, after, if_pos hq, List.singleton_append,
    marks_go_inside hv, marks_go_cons, hclose, List.length_append, List.replicate_add]
  simp [covers, hq, List.replicate_succ]

/-- No character opens a string. -/
def Quiet : Option Char → Text → Prop
  | _, [] => True
  | previous, c :: t => ¬opens previous c ∧ Quiet (some c) t

theorem marks_go_quiet {t : Text} {previous : Option Char} (h : Quiet previous t) (rest : Text) :
    marks.go none previous (t ++ rest) =
      List.replicate t.length false ++ marks.go none (t.getLast?.or previous) rest := by
  induction t generalizing previous with
  | nil => rfl
  | cons c t ih =>
      obtain ⟨hc, ht⟩ := h
      rw [List.cons_append, marks_go_cons, after, if_neg hc, ih ht, getLast?_or_cons c t previous]
      simp [covers, hc, List.replicate_succ]

theorem quiet_of_forall {t : Text} (h : ∀ c ∈ t, c ≠ '"' ∧ c ≠ '\'') (previous : Option Char) :
    Quiet previous t := by
  induction t generalizing previous with
  | nil => trivial
  | cons c t ih =>
      obtain ⟨hdouble, hsingle⟩ := h c List.mem_cons_self
      refine ⟨?_, ih (fun d hd => h d (List.mem_cons_of_mem _ hd)) _⟩
      simp [opens, hdouble, hsingle]

end Quote

/-! ### Comments and separating words -/

/-- A comment starts at a position: two dashes, the first one not quoted. -/
def Script.CommentAt (marks : List Bool) (t : Text) (i : Nat) : Prop :=
  marks[i]? = some false ∧ ['-', '-'] <+: t.drop i

theorem Script.beforeComment_go (current previous : Option Char) (t : Text) :
    ∃ n, beforeComment.go current previous t = t.take n ∧
      (∀ i < n, ¬CommentAt (Quote.marks.go current previous t) t i) ∧
      (n < t.length → CommentAt (Quote.marks.go current previous t) t n) := by
  induction t generalizing current previous with
  | nil => exact ⟨0, rfl, fun i hi => absurd hi (Nat.not_lt_zero i), fun h => absurd h (by simp)⟩
  | cons c rest ih =>
      have hdash : ∀ q : Option Char, Quote.opens q '-' = false := fun q => by
        simp [Quote.opens]
      rw [beforeComment.go]
      by_cases hcomment : (current.isNone && c == '-' && rest.head? == some '-') = true
      · simp only [Bool.and_eq_true, beq_iff_eq, Option.isNone_iff_eq_none] at hcomment
        obtain ⟨⟨rfl, rfl⟩, hnext⟩ := hcomment
        obtain ⟨after, rfl⟩ := List.head?_eq_some_iff.mp hnext
        refine ⟨0, rfl, fun i hi => absurd hi (Nat.not_lt_zero i), fun _ => ⟨?_, after, rfl⟩⟩
        simp [Quote.marks_go_cons, Quote.covers, hdash]
      · obtain ⟨n, hgo, hbefore, hat⟩ := ih (Quote.after current previous c) (some c)
        rw [if_neg hcomment, hgo]
        refine ⟨n + 1, rfl, fun i hi => ?_, fun h => hat (Nat.lt_of_succ_lt_succ h)⟩
        cases i with
        | succ i => exact hbefore i (Nat.lt_of_succ_lt_succ hi)
        | zero =>
            rintro ⟨hmark, after, hdashes⟩
            obtain ⟨rfl, rfl⟩ := List.cons.inj hdashes
            have hnone : current = none := by
              simpa [Quote.marks_go_cons, Quote.covers, hdash] using hmark
            exact hcomment (by rw [hnone]; rfl)

/-- A line is cut at the first comment. -/
theorem Script.beforeComment_marks (t : Text) :
    ∃ n, beforeComment t = t.take n ∧ (∀ i < n, ¬CommentAt (Quote.marks t) t i) ∧
      (n < t.length → CommentAt (Quote.marks t) t n) :=
  beforeComment_go none none t

theorem Separator.split?_go {keyword : Text} {current previous : Option Char} {depth : Nat}
    {t before after : Text}
    (h : split?.go keyword current previous depth t = some (before, after)) :
    before <+: t ∧ (Quote.marks.go current previous t)[before.length]? = some false := by
  induction t generalizing current previous depth before with
  | nil => exact nomatch h
  | cons c rest ih =>
      have onward : ∀ {depth : Nat},
          (split?.go keyword (Quote.after current previous c) (some c) depth rest).map
            (fun r => (c :: r.1, r.2)) = some (before, after) →
          before <+: c :: rest ∧
            (Quote.marks.go current previous (c :: rest))[before.length]? = some false := by
        intro depth h
        obtain ⟨⟨initial, _⟩, hgo, heq⟩ := Option.map_eq_some_iff.mp h
        obtain ⟨rfl, rfl⟩ := Prod.mk.inj heq
        obtain ⟨hinitial, hmark⟩ := ih hgo
        exact ⟨List.cons_prefix_cons.mpr ⟨rfl, hinitial⟩, hmark⟩
      rw [split?.go] at h
      dsimp only at h
      split at h
      · exact onward h
      · rename_i hcovers
        split at h
        · split at h
          · obtain ⟨rfl, rfl⟩ := Prod.mk.inj (Option.some.inj h)
            refine ⟨List.nil_prefix, ?_⟩
            simpa [Quote.marks_go_cons] using hcovers
          · exact onward h
        · exact onward h

/-- A keyword separates only outside quotes. -/
theorem Separator.split?_marks {keyword t before after : Text}
    (h : split? keyword t = some (before, after)) :
    before <+: t ∧ (Quote.marks t)[before.length]? = some false :=
  split?_go h

namespace Token

/-! ### Strings as tokens -/

/-- Whether a position of the source lies inside a string token, its quotes included. -/
def inString (tokens : List Token) (i : Nat) : Bool :=
  tokens.any fun token => token.kind == .string && (token.start ≤ i && i < token.stop)

/-- For each character of a text, whether it lies inside a string token. -/
def stringMarks (t : Text) : List Bool := (List.range t.length).map (inString (tokenize t))

/-- The marks of a piece of the text and of what comes after it. -/
theorem map_inString_append (position : Nat) (tokens : List Token) (written rest : Text) :
    (List.range (written ++ rest).length).map (fun i => inString tokens (position + i)) =
      (List.range written.length).map (fun i => inString tokens (position + i)) ++
        (List.range rest.length).map
          (fun i => inString tokens (position + written.length + i)) := by
  rw [List.length_append, List.range_add, List.map_append, List.map_map]
  congr 1
  exact List.map_congr_left fun i _ => by simp [Nat.add_assoc]

theorem inString_before {position i : Nat} {previous : Option Char} {t : Text}
    {tokens : List Token} (h : Laid position previous t tokens) (hi : i < position) :
    inString tokens i = false := by
  refine List.any_eq_false.mpr fun token htoken => ?_
  have hle := h.start_le token htoken
  have hlt : ¬token.start ≤ i := by omega
  simp [hlt]

/-! ### Apostrophes -/

/-- Where a word goes on with an apostrophe outside strings, the character before is a letter, a
digit or an underscore; `m` says which characters belong to strings. -/
def ApostrophesInside (m : List Bool) (t : Text) : Prop :=
  ∀ i d, t[i]? = some d → t[i + 1]? = some '\'' → m[i]? = some false → goesOn d → Text.isWord d

/-- A first part of a text in which every such apostrophe is inside, with the character after
it taken into account, can be left off. -/
theorem apostrophesInside_append {m n : List Bool} {written rest : Text}
    (hm : m.length = written.length)
    (hinside : ∀ i d, written[i]? = some d → (written ++ rest)[i + 1]? = some '\'' →
      m[i]? = some false → goesOn d → Text.isWord d) :
    ApostrophesInside (m ++ n) (written ++ rest) ↔ ApostrophesInside n rest := by
  constructor
  · intro h i d hd hnext hmark hgoes
    refine h (written.length + i) d ?_ ?_ ?_ hgoes
    · rwa [List.getElem?_append_right (Nat.le_add_right _ _), Nat.add_sub_cancel_left]
    · rwa [Nat.add_assoc, List.getElem?_append_right (Nat.le_add_right _ _),
        Nat.add_sub_cancel_left]
    · rwa [← hm, List.getElem?_append_right (Nat.le_add_right _ _), Nat.add_sub_cancel_left]
  · intro h i d hd hnext hmark hgoes
    by_cases hi : i < written.length
    · rw [List.getElem?_append_left hi] at hd
      rw [List.getElem?_append_left (hm ▸ hi)] at hmark
      exact hinside i d hd hnext hmark hgoes
    · obtain ⟨k, rfl⟩ := Nat.exists_eq_add_of_le (Nat.le_of_not_lt hi)
      rw [List.getElem?_append_right (Nat.le_add_right _ _), Nat.add_sub_cancel_left] at hd
      rw [Nat.add_assoc, List.getElem?_append_right (Nat.le_add_right _ _),
        Nat.add_sub_cancel_left] at hnext
      rw [← hm, List.getElem?_append_right (Nat.le_add_right _ _), Nat.add_sub_cancel_left] at hmark
      exact h k d hd hnext hmark hgoes

/-- In a word in which no quote opens, apostrophes come after letters. -/
theorem isWord_of_quiet {c : Char} {v : Text} (h : Quote.Quiet (some c) v) :
    ∀ {i d}, (c :: v)[i]? = some d → (c :: v)[i + 1]? = some '\'' → Text.isWord d := by
  induction v generalizing c with
  | nil => exact fun _ hnext => by simp at hnext
  | cons e v ih =>
      obtain ⟨he, hv⟩ := h
      intro i d hd hnext
      cases i with
      | zero =>
          obtain rfl : c = d := Option.some.inj hd
          obtain rfl : e = '\'' := Option.some.inj hnext
          simpa [Quote.opens] using he
      | succ i => exact ih hv hd hnext

/-- In a word in which a quote opens, the first one that does comes after another character. -/
theorem opening_of_not_quiet {c : Char} {v : Text} (hc : goesOn c) (hv : ∀ d ∈ v, goesOn d)
    (h : ¬Quote.Quiet (some c) v) (rest : Text) :
    ∃ i d, (c :: v)[i]? = some d ∧ (c :: v)[i + 1]? = some '\'' ∧ goesOn d ∧ ¬Text.isWord d ∧
      (false :: Quote.marks.go none (some c) (v ++ rest))[i]? = some false ∧
      (false :: Quote.marks.go none (some c) (v ++ rest))[i + 1]? = some true := by
  induction v generalizing c with
  | nil => exact absurd trivial h
  | cons e v ih =>
      have he := hv e List.mem_cons_self
      by_cases hopens : Quote.opens (some c) e
      · have hquote : e = '\'' ∧ ¬Text.isWord c := by
          have hdouble : ¬goesOn '"' := by decide
          simp only [Quote.opens, Bool.or_eq_true, beq_iff_eq, Bool.and_eq_true,
            Option.any_some, Bool.not_eq_true'] at hopens
          rcases hopens with rfl | ⟨hsingle, hword⟩
          · exact absurd he hdouble
          · exact ⟨hsingle, Bool.not_eq_true _ ▸ hword⟩
        refine ⟨0, c, rfl, congrArg some hquote.1, hc, hquote.2, rfl, ?_⟩
        simp [Quote.marks_go_cons, Quote.covers, hopens]
      · have hrest : ¬Quote.Quiet (some e) v := fun hquiet => h ⟨hopens, hquiet⟩
        obtain ⟨i, d, hd, hnext, hgoes, hword, hmark, hmark'⟩ :=
          ih he (fun d hd => hv d (List.mem_cons_of_mem _ hd)) hrest
        have hstep : Quote.marks.go none (some c) (e :: v ++ rest) =
            false :: Quote.marks.go none (some e) (v ++ rest) := by
          rw [List.cons_append, Quote.marks_go_cons, Quote.after, if_neg hopens]
          simp [Quote.covers, hopens]
        rw [hstep]
        exact ⟨i + 1, d, hd, hnext, hgoes, hword, hmark, hmark'⟩

/-! ### The two agree -/

/-- For a text with its tokens: the strings that they are, and those that the quotes make, are
the same if and only if apostrophes are inside. -/
def Agree (position : Nat) (previous : Option Char) (t : Text) (tokens : List Token) : Prop :=
  (List.range t.length).map (fun i => inString tokens (position + i)) =
      Quote.marks.go none previous t ↔
    ApostrophesInside (Quote.marks.go none previous t) t

/-- A piece which either reading takes as a string, or neither, keeps them in agreement. -/
theorem Agree.piece {position : Nat} {previous : Option Char} {written rest : Text} {b : Bool}
    {tokens remaining : List Token}
    (hrest : Agree (position + written.length) written.getLast? rest remaining)
    (hstrings :
      (List.range (written ++ rest).length).map (fun i => inString tokens (position + i)) =
      List.replicate written.length b ++
        (List.range rest.length).map
          (fun i => inString remaining (position + written.length + i)))
    (hmarks : Quote.marks.go none previous (written ++ rest) =
      List.replicate written.length b ++ Quote.marks.go none written.getLast? rest)
    (hinside : b = false → ∀ i d, written[i]? = some d → (written ++ rest)[i + 1]? = some '\'' →
      goesOn d → Text.isWord d) :
    Agree position previous (written ++ rest) tokens := by
  unfold Agree at hrest ⊢
  rw [hstrings, hmarks, List.append_cancel_left_eq, hrest,
    apostrophesInside_append (by simp) fun i d hd hnext hmark => ?_]
  refine hinside ?_ i d hd hnext
  exact (List.eq_of_mem_replicate (List.mem_of_getElem? hmark)).symm

theorem marks_go_piece_quiet {previous : Option Char} {written : Text} (hne : written ≠ [])
    (hquiet : Quote.Quiet previous written) (rest : Text) :
    Quote.marks.go none previous (written ++ rest) =
      List.replicate written.length false ++ Quote.marks.go none written.getLast? rest := by
  rw [Quote.marks_go_quiet hquiet, List.getLast?_eq_some_getLast hne, Option.some_or]

/-- The marks of a token and of what comes after it. -/
theorem map_inString_token {position : Nat} {previous : Option Char} {kind : Kind}
    {value written rest : Text} {tokens : List Token}
    (h : Laid (position + written.length) previous rest tokens) :
    (List.range (written ++ rest).length).map (fun i =>
        inString (⟨kind, value, position, position + written.length⟩ :: tokens) (position + i)) =
      List.replicate written.length (kind == .string) ++
        (List.range rest.length).map
          (fun i => inString tokens (position + written.length + i)) := by
  rw [map_inString_append]
  congr 1
  · refine List.eq_replicate_iff.mpr ⟨by simp, fun b hb => ?_⟩
    obtain ⟨i, hi, rfl⟩ := List.mem_map.mp hb
    have hlt := List.mem_range.mp hi
    have hrest := inString_before h (Nat.add_lt_add_left hlt position)
    rw [inString] at hrest ⊢
    rw [List.any_cons, hrest]
    simp [hlt]
  · refine List.map_congr_left fun i _ => ?_
    have hpast : ¬position + written.length + i < position + written.length :=
      Nat.not_lt.mpr (Nat.le_add_right _ _)
    rw [inString, List.any_cons]
    simp [inString, hpast]

/-- Behind a word or a number no apostrophe follows. -/
theorem inside_of_apart {written rest : Text} (hrest : Apart rest)
    (h : ∀ i d, written[i]? = some d → written[i + 1]? = some '\'' → Text.isWord d) {i : Nat}
    {d : Char} (hd : written[i]? = some d) (hnext : (written ++ rest)[i + 1]? = some '\'') :
    Text.isWord d := by
  by_cases hi : i + 1 < written.length
  · rw [List.getElem?_append_left hi] at hnext
    exact h i d hd hnext
  · have hlast : i < written.length := (List.getElem?_eq_some_iff.mp hd).1
    rw [List.getElem?_append_right (Nat.le_of_not_lt hi),
      Nat.sub_eq_zero_of_le hlast, ← List.head?_eq_getElem?] at hnext
    exact absurd rfl (hrest _ hnext).2

theorem isWordPart_ne_quote {c : Char} (h : isWordPart c) : c ≠ '"' ∧ c ≠ '\'' := by
  constructor <;> (rintro rfl; exact absurd h (by decide))

/-- A word in which a quote opens: neither are the two the same nor are apostrophes inside. -/
theorem agree_of_opening {position : Nat} {previous : Option Char} {c : Char} {v rest : Text}
    {tokens : List Token} (hc : isWordPart c) (hv : ∀ d ∈ v, isWordPart d ∨ d = '\'')
    (h : ¬Quote.Quiet (some c) v)
    (hrest : Laid (position + (c :: v).length) (c :: v).getLast? rest tokens) :
    Agree position previous (c :: v ++ rest)
      (⟨.word, c :: v, position, position + (c :: v).length⟩ :: tokens) := by
  have hcopens : ¬Quote.opens previous c := by
    obtain ⟨hdouble, hsingle⟩ := isWordPart_ne_quote hc
    simp [Quote.opens, hdouble, hsingle]
  have hmarks : Quote.marks.go none previous (c :: v ++ rest) =
      false :: Quote.marks.go none (some c) (v ++ rest) := by
    rw [List.cons_append, Quote.marks_go_cons, Quote.after, if_neg hcopens]
    simp [Quote.covers, hcopens]
  obtain ⟨i, d, hd, hnext, hgoes, hword, hmark, hmark'⟩ :=
    opening_of_not_quiet (by simp [goesOn, hc]) (fun d hd => by simpa [goesOn] using hv d hd) h rest
  have hlast : i + 1 < (c :: v).length := (List.getElem?_eq_some_iff.mp hnext).1
  rw [Agree, hmarks, map_inString_token hrest]
  constructor
  · intro heq
    have hno : (Kind.word == Kind.string) = false := rfl
    rw [← heq, hno, List.getElem?_append_left (by simpa using hlast),
      List.getElem?_replicate_of_lt hlast] at hmark'
    exact absurd hmark' (by simp)
  · intro hinside
    refine absurd (hinside i d ?_ ?_ hmark hgoes) hword
    · rwa [List.getElem?_append_left (Nat.lt_of_succ_lt hlast)]
    · rwa [List.getElem?_append_left hlast]

/-- A blank is no part of a string and no word goes on from it. -/
theorem agree_blank {position : Nat} {previous : Option Char} {c : Char} {rest : Text}
    {tokens : List Token} (hc : isBlank c) (hrest : Laid (position + 1) (some c) rest tokens)
    (h : Agree (position + 1) (some c) rest tokens) :
    Agree position previous (c :: rest) tokens := by
  have hquote : ¬isBlank '"' ∧ ¬isBlank '\'' := by decide
  have hdouble : c ≠ '"' := fun h => hquote.1 (h ▸ hc)
  have hsingle : c ≠ '\'' := fun h => hquote.2 (h ▸ hc)
  have hpart : ¬isWordPart c := fun h => not_isBlank_of_isWordPart h hc
  have hquiet : Quote.Quiet previous [c] := ⟨by simp [Quote.opens, hdouble, hsingle], trivial⟩
  have hstrings := map_inString_append position tokens [c] rest
  have hfirst := inString_before hrest (Nat.lt_succ_self position)
  show Agree position previous ([c] ++ rest) tokens
  refine Agree.piece h (b := false) ?_
    (marks_go_piece_quiet (List.cons_ne_nil _ _) hquiet rest) ?_
  · rw [hstrings]
    simp [hfirst]
  · intro _ i d hd _ hgoes
    obtain rfl : c = d := by
      cases i with
      | zero => exact Option.some.inj hd
      | succ i => simp at hd
    simp [goesOn, hpart, hsingle] at hgoes

/-- Marks are no quotes and no part of a word. -/
theorem not_goesOn_of_isMark {c : Char} (h : isMark c) : ¬goesOn c ∧ c ≠ '"' ∧ c ≠ '\'' := by
  have hquote : ¬isMark '"' ∧ ¬isMark '\'' := by decide
  have hsingle : c ≠ '\'' := fun heq => hquote.2 (heq ▸ h)
  exact ⟨by simp [goesOn, not_isWordPart_of_isMark h, hsingle], fun heq => hquote.1 (heq ▸ h),
    hsingle⟩

/-- A token keeps what comes behind it in agreement. -/
theorem Piece.agree {position : Nat} {previous : Option Char} {rest value written : Text}
    {kind : Kind} {tokens : List Token} (h : Piece previous rest kind value written)
    (hrest : Laid (position + written.length) written.getLast? rest tokens)
    (ih : Agree (position + written.length) written.getLast? rest tokens) :
    Agree position previous (written ++ rest)
      (⟨kind, value, position, position + written.length⟩ :: tokens) := by
  have hne := h.ne_nil
  cases h with
  | @string q v hq hv =>
      refine Agree.piece ih (map_inString_token hrest) ?_ fun h => Bool.noConfusion h
      rw [Quote.marks_go_string hq hv, List.getLast?_concat]
      rfl
  | @unclosed q v hq hv hend =>
      subst hend
      refine Agree.piece ih (map_inString_token hrest) ?_ fun h => Bool.noConfusion h
      rw [List.append_nil, Quote.marks_go_unclosed hq hv]
      exact (List.append_nil _).symm
  | number _ hv _ hapart =>
      have hquotes : ∀ c ∈ value, c ≠ '"' ∧ c ≠ '\'' := fun c hc => isWordPart_ne_quote (hv c hc)
      refine Agree.piece ih (map_inString_token hrest)
        (marks_go_piece_quiet hne (Quote.quiet_of_forall hquotes _) rest) ?_
      intro _ i d hd hnext _
      refine inside_of_apart hapart (fun i d _ hnext => ?_) hd hnext
      exact absurd rfl (hquotes _ (List.mem_of_getElem? hnext)).2
  | mark hkind _ hv hword =>
      have hquiet := Quote.quiet_of_forall (fun c hc => (not_goesOn_of_isMark (hv c hc)).2) previous
      have hstring : (kind == Kind.string) = false := by simpa using hkind.1
      refine Agree.piece ih (map_inString_token hrest) ?_ ?_
      · rw [hstring]
        exact marks_go_piece_quiet hne hquiet rest
      · intro _ i d hd _ hgo
        exact absurd hgo (not_goesOn_of_isMark (hv d (List.mem_of_getElem? hd))).1
  | @word c v hc hv hapart =>
      by_cases hquiet : Quote.Quiet (some c) v
      · obtain ⟨hdouble, hsingle⟩ := isWordPart_ne_quote hc
        have hwhole : Quote.Quiet previous (c :: v) :=
          ⟨by simp [Quote.opens, hdouble, hsingle], hquiet⟩
        refine Agree.piece ih (map_inString_token hrest)
          (marks_go_piece_quiet hne hwhole rest) ?_
        intro _ i d hd hnext _
        exact inside_of_apart hapart (fun _ _ => isWord_of_quiet hquiet) hd hnext
      · exact agree_of_opening hc hv hquiet hrest

theorem Laid.agree {position : Nat} {previous : Option Char} {t : Text} {tokens : List Token}
    (h : Laid position previous t tokens) : Agree position previous t tokens := by
  induction h with
  | nil => simp [Agree, Quote.marks.go, ApostrophesInside]
  | blank hc hrest ih => exact agree_blank hc hrest ih
  | token hpiece hrest ih => exact hpiece.agree hrest ih

/-- The end of the text is no string. -/
theorem stringMarks_eq (t : Text) :
    stringMarks t = (List.range t.length).map (inString (scan t)) := by
  refine List.map_congr_left fun i _ => ?_
  simp [inString, tokenize, endOf]

/-- **The characters of a line that lie in string tokens are those that the scanner of quotes
takes as quoted, if and only if every apostrophe that a word runs on over comes after a letter, a
digit or an underscore.** -/
theorem stringMarks_eq_marks_iff (t : Text) :
    stringMarks t = Quote.marks t ↔
      ∀ i d, t[i]? = some d → t[i + 1]? = some '\'' → (Quote.marks t)[i]? = some false →
        goesOn d → Text.isWord d := by
  have hagree := (scan_laid t).agree
  simp only [Agree, Nat.zero_add] at hagree
  rw [stringMarks_eq]
  exact hagree

/-- In `x.'y'` the apostrophes belong to the word and quote nothing. -/
theorem stringMarks_ne_marks :
    stringMarks "x.'y'".toList = [false, false, false, false, false] ∧
      Quote.marks "x.'y'".toList = [false, false, true, true, true] := by
  decide +kernel

end Token

end CardTalk
