/-
Plain words in expressions.

Plain words have neither digits nor marks in them, and none of them means anything by itself or is
a variable; operator words may be among them (`PlainWords`).  A text of plain words is cut into
just these (`plainTokens_of_laid`), an atom of them is its own text (`evalAtom_plain`), and the
source from one of them to a later one is no logical value and no number
(`not_readsAsLogical_span`), so an operator word that stands behind it finds no operand that it
applies to.
-/
import CardTalk.Proofs.Expr.Fuel
import CardTalk.Proofs.Expr.Layout
import CardTalk.Proofs.Text.Word
import CardTalk.Expr.Eval

namespace CardTalk.Expr

open Text

/-! ### Plain words -/

/-- What plain words are made of: all that words are, letters among it, except digits. -/
def isPlain (c : Char) : Bool := Token.isWordPart c && !isDecimal c

theorem not_isBlank_of_isPlain {c : Char} (h : isPlain c) : ¬isBlank c :=
  Token.not_isBlank_of_isWordPart (Bool.and_eq_true_iff.mp h).1

theorem not_isDecimal_of_isPlain {c : Char} (h : isPlain c) : ¬isDecimal c := by
  simpa using (Bool.and_eq_true_iff.mp h).2

/-- The words, in lower case, that mean something wherever they stand: `is`, which compares any
operands, the literal words and those that special forms begin with. -/
def specialWords : List Text := ["the", "it", "empty", "true", "false", "random", "is"]

/-- Plain words with blanks around them, none of which means anything wherever it stands, is a
variable or is one of some words that are left out. -/
structure PlainWords (v : View) (omitted : List Text) (t : Text) : Prop where
  plain : ∀ c ∈ t, isBlank c ∨ isPlain c
  meaningless : ∀ w ∈ words t, lower w ∉ specialWords
  unnamed : ∀ w ∈ words t, w ≠ [] → v.bindings.lookup? w = none
  omits : ∀ w ∈ words t, w ≠ [] → lower w ∉ omitted

/-! ### Neither logical values nor numbers -/

theorem isNumeral_eq_false {t : Text} (h : ∀ c ∈ t, ¬isDecimal c) : Number.isNumeral t = false := by
  have hsign : ∀ u : Text, (∀ c ∈ u, ¬isDecimal c) → ∀ c ∈ (Number.readSign u).2, ¬isDecimal c := by
    intro u hu
    unfold Number.readSign
    split
    · exact fun c hc => hu c (List.mem_cons_of_mem _ hc)
    · exact fun c hc => hu c (List.mem_cons_of_mem _ hc)
    · exact hu
  have hdigits : ∀ u : Text, (∀ c ∈ u, ¬isDecimal c) → Number.readDigits u = ([], u) := by
    intro u hu
    cases u with
    | nil => rfl
    | cons c u =>
        have hc := hu c List.mem_cons_self
        rw [Number.readDigits, List.takeWhile_cons_of_neg hc, List.dropWhile_cons_of_neg hc]
  have hplaces : ∀ u : Text, (∀ c ∈ u, ¬isDecimal c) → Number.readPlaces u = none := by
    intro u hu
    rw [Number.readPlaces, hdigits u hu]
    dsimp only
    split
    · rename_i more
      rw [hdigits more fun c hc => hu c (List.mem_cons_of_mem _ hc)]
      rfl
    · rfl
  have hnone := hplaces _ (hsign (trimStart t) fun c hc => h c ((List.dropWhile_sublist _).mem hc))
  have hread : Number.read? t = none := by
    simp only [Number.read?, hnone]
    rfl
  rw [Number.isNumeral, hread]

/-- A word that means nothing is no logical value. -/
theorem not_readsAsLogical_word {w : Text} (hne : w ≠ []) (hplain : ∀ c ∈ w, isPlain c)
    (h : lower w ∉ specialWords) : readsAsLogical w = false := by
  have hblank : ∀ c ∈ w, ¬isBlank c := fun c hc => not_isBlank_of_isPlain (hplain c hc)
  have htrim : trim w = w := trim_of_not_isBlank
    (fun c hc => hblank c (List.mem_of_mem_head? hc))
    (fun c hc => hblank c (List.mem_of_mem_getLast? hc))
  have hnumeral : Number.isNumeral w = false :=
    isNumeral_eq_false fun c hc => not_isDecimal_of_isPlain (hplain c hc)
  have hlogical : lower w ∉ logicalWords := by
    intro hmem
    simp only [logicalWords, List.mem_cons, List.not_mem_nil, or_false] at hmem
    rcases hmem with htrue | hfalse | hempty
    · exact h (by rw [htrue]; decide)
    · exact h (by rw [hfalse]; decide)
    · exact lower_ne_nil hne hempty
  simp [readsAsLogical, htrim, hnumeral, hlogical]

/-- No more is a text with a blank between two words. -/
theorem not_readsAsLogical_of_blank {t : Text} (htrim : trim t = t) (hdigit : ∀ c ∈ t, ¬isDecimal c)
    {b : Char} (hb : isBlank b) (hmem : b ∈ t) : readsAsLogical t = false := by
  have hlower := mem_lower_of_isBlank hb hmem
  have hlogical : lower t ∉ logicalWords := by
    have hno : logicalWords.all (fun w => !w.any isBlank) = true := by decide
    intro h
    have hword := List.all_eq_true.mp hno _ h
    simp only [Bool.not_eq_true', List.any_eq_false] at hword
    exact hword b hlower hb
  simp [readsAsLogical, htrim, isNumeral_eq_false hdigit, hlogical]

/-! ### Their tokens -/

/-- A token that is a plain word of the source. -/
structure PlainToken (v : View) (omitted : List Text) (source : Text) (token : Token) : Prop where
  kind : token.kind = .word
  nonempty : token.value ≠ []
  plain : ∀ c ∈ token.value, isPlain c
  meaningless : lower token.value ∉ specialWords
  unnamed : v.bindings.lookup? token.value = none
  omits : lower token.value ∉ omitted
  covers : (source.take token.stop).drop token.start = token.value

/-- A blank comes right behind a token that another follows. -/
def Gap (source : Text) (a b : Token) : Prop :=
  a.stop < b.start ∧ ∃ c, source[a.stop]? = some c ∧ isBlank c

/-- Tokens that are plain words, with blanks between them. -/
structure PlainTokens (v : View) (omitted : List Text) (source : Text) (tokens : List Token) :
    Prop where
  token : ∀ token ∈ tokens, PlainToken v omitted source token
  gap : tokens.Pairwise (Gap source)

theorem PlainTokens.tail {v : View} {omitted : List Text} {source : Text} {token : Token}
    {rest : List Token} (h : PlainTokens v omitted source (token :: rest)) :
    PlainTokens v omitted source rest :=
  ⟨fun t ht => h.token t (List.mem_cons_of_mem _ ht), (List.pairwise_cons.mp h.gap).2⟩

theorem PlainTokens.append_right {v : View} {omitted : List Text} {source : Text}
    {passed rest : List Token} (h : PlainTokens v omitted source (passed ++ rest)) :
    PlainTokens v omitted source rest :=
  ⟨fun t ht => h.token t (List.mem_append_right _ ht), (List.pairwise_append.mp h.gap).2.1⟩

/-! ### Cutting a text into plain words -/

theorem PlainWords.behind {v : View} {omitted : List Text} {before rest : Text} {b : Char}
    (hb : isBlank b) (h : PlainWords v omitted (before ++ b :: rest)) :
    PlainWords v omitted rest := by
  have hwords : ∀ w ∈ words rest, w ∈ words (before ++ b :: rest) := by
    intro w hw
    rw [words_append before hb]
    exact List.mem_append_right _ hw
  exact ⟨fun c hc => h.plain c (List.mem_append_right _ (List.mem_cons_of_mem _ hc)),
    fun w hw => h.meaningless w (hwords w hw), fun w hw => h.unnamed w (hwords w hw),
    fun w hw => h.omits w (hwords w hw)⟩

theorem PlainWords.cons {v : View} {omitted : List Text} {rest : Text} {b : Char} (hb : isBlank b)
    (h : PlainWords v omitted rest) : PlainWords v omitted (b :: rest) := by
  have hwords : ∀ w ∈ words (b :: rest), w = [] ∨ w ∈ words rest := by
    intro w hw
    rw [← List.nil_append (b :: rest), words_append [] hb] at hw
    exact (List.mem_append.mp hw).imp_left List.mem_singleton.mp
  refine ⟨fun c hc => ?_, fun w hw => ?_, fun w hw hne => ?_, fun w hw hne => ?_⟩
  · rcases List.mem_cons.mp hc with rfl | hc
    · exact .inl hb
    · exact h.plain c hc
  · rcases hwords w hw with rfl | hw
    · decide
    · exact h.meaningless w hw
  · exact h.unnamed w ((hwords w hw).resolve_left hne) hne
  · exact h.omits w ((hwords w hw).resolve_left hne) hne

/-- The pieces that such a text is cut into are words. -/
theorem piece_of_plain {previous : Option Char} {rest value written : Text} {kind : Token.Kind}
    (h : Token.Piece previous rest kind value written)
    (hplain : ∀ c ∈ written, isBlank c ∨ isPlain c) :
    kind = .word ∧ value = written ∧ (∀ c ∈ written, isPlain c) ∧ Token.Apart rest := by
  have hquote : ∀ {q : Char}, Quote.opens previous q → ¬(isBlank q ∨ isPlain q) := by
    intro q hq
    rcases Token.eq_quote_of_opens hq with rfl | rfl <;> decide
  cases h with
  | string hq => exact absurd (hplain _ List.mem_cons_self) (hquote hq)
  | unclosed hq => exact absurd (hplain _ List.mem_cons_self) (hquote hq)
  | number _ hv hdigit =>
      obtain ⟨c, hc, hdecimal⟩ := hdigit
      rcases hplain c hc with hblank | h
      · exact absurd hblank (Token.not_isBlank_of_isWordPart (hv c hc))
      · simp [isPlain, hdecimal] at h
  | @word c v hc hv hrest =>
      refine ⟨rfl, rfl, fun d hd => (hplain d hd).resolve_left fun hblank => ?_, hrest⟩
      rcases List.mem_cons.mp hd with rfl | hd
      · exact Token.not_isBlank_of_isWordPart hc hblank
      · rcases hv d hd with hpart | rfl
        · exact Token.not_isBlank_of_isWordPart hpart hblank
        · exact absurd hblank (by decide)
  | mark _ hne hv =>
      obtain ⟨c, hc⟩ := List.exists_mem_of_ne_nil _ hne
      rcases hplain c hc with hblank | h
      · exact absurd hblank (Token.not_isBlank_of_isMark (hv c hc))
      · exact absurd (Bool.and_eq_true_iff.mp h).1 (Token.not_isWordPart_of_isMark (hv c hc))

/-- The tokens of plain words that stand behind some text. -/
theorem plainTokens_of_laid {v : View} {omitted : List Text} {position : Nat}
    {previous : Option Char} {t : Text} {tokens : List Token}
    (h : Token.Laid position previous t tokens) {front : Text}
    (hfront : front.length = position) (hwords : PlainWords v omitted t) :
    PlainTokens v omitted (front ++ t) tokens := by
  induction h generalizing front with
  | nil => exact ⟨fun _ h => (nomatch h), .nil⟩
  | @blank position previous c rest tokens hc hrest ih =>
      have hrest : PlainWords v omitted rest := by
        rw [← List.nil_append (c :: rest)] at hwords
        exact hwords.behind hc
      have hshift := @ih (front ++ [c]) (by simp [hfront]) hrest
      rwa [List.append_assoc] at hshift
  | @token position previous kind value written rest tokens hpiece hrest ih =>
      obtain ⟨rfl, rfl, hplain, hapart⟩ :=
        piece_of_plain hpiece fun c hc => hwords.plain c (List.mem_append_left _ hc)
      have hblank : ∀ c ∈ value, isBlank c = false := fun c hc =>
        Bool.eq_false_iff.mpr (not_isBlank_of_isPlain (hplain c hc))
      -- what comes right behind the word is blank
      have hhead : ∀ c ∈ rest.head?, isBlank c := by
        intro c hc
        refine (hwords.plain c ?_).resolve_right fun h => ?_
        · exact List.mem_append_right _ (List.mem_of_mem_head? hc)
        · exact (hapart c hc).1 (Bool.and_eq_true_iff.mp h).1
      have hword : value ∈ words (value ++ rest) :=
        mem_splitOnP (fun _ h => absurd h List.not_mem_nil) hblank hhead
      have hfirst : PlainToken v omitted (front ++ (value ++ rest))
          ⟨.word, value, position, position + value.length⟩ := by
        refine ⟨rfl, hpiece.ne_nil, hplain, hwords.meaningless _ hword,
          hwords.unnamed _ hword hpiece.ne_nil,
          hwords.omits _ hword hpiece.ne_nil, ?_⟩
        simp [← hfront, List.take_append]
      cases rest with
      | nil =>
          obtain rfl := hrest.tokens_nil
          refine ⟨fun t ht => ?_, .cons (fun _ h => nomatch h) .nil⟩
          exact List.mem_singleton.mp ht ▸ hfirst
      | cons b rest =>
          have hb := hhead b rfl
          have hothers := @ih (front ++ value) (by simp [hfront])
            (PlainWords.cons hb (PlainWords.behind hb hwords))
          rw [List.append_assoc] at hothers
          refine ⟨fun t ht => ?_, .cons (fun t ht => ⟨?_, b, ?_, hb⟩) hothers.gap⟩
          · rcases List.mem_cons.mp ht with rfl | ht
            · exact hfirst
            · exact hothers.token t ht
          · exact hrest.start_lt hb t ht
          · dsimp only
            rw [← hfront, ← List.append_assoc, ← List.length_append,
              List.getElem?_append_right (Nat.le_refl _), Nat.sub_self]
            rfl

/-! ### What is read up to some token -/

/-- A cursor goes on to another one by taking tokens. -/
def Cursor.GoesTo (c c' : Cursor) : Prop :=
  ∃ taken : List Token, c.rest = taken ++ c'.rest ∧
    c'.last = (taken.getLast?.map Token.stop).getD c.last

theorem Cursor.GoesTo.refl (c : Cursor) : c.GoesTo c := ⟨[], rfl, rfl⟩

theorem Cursor.GoesTo.trans {a b c : Cursor} (h : a.GoesTo b) (h' : b.GoesTo c) : a.GoesTo c := by
  obtain ⟨taken, hrest, hlast⟩ := h
  obtain ⟨taken', hrest', hlast'⟩ := h'
  refine ⟨taken ++ taken', by rw [hrest, hrest', List.append_assoc], ?_⟩
  rw [hlast', hlast, List.getLast?_append]
  cases taken'.getLast? <;> rfl

theorem Cursor.goesTo_past {c : Cursor} {token : Token} {rest : List Token}
    (h : c.rest = token :: rest) : c.GoesTo (.past token rest) := ⟨[token], h, rfl⟩

theorem Cursor.GoesTo.plainTokens {v : View} {omitted : List Text} {source : Text} {c c' : Cursor}
    (h : c.GoesTo c') (hplain : PlainTokens v omitted source c.rest) :
    PlainTokens v omitted source c'.rest := by
  obtain ⟨taken, hrest, -⟩ := h
  rw [hrest] at hplain
  exact hplain.append_right

theorem Cursor.GoesTo.length_le {c c' : Cursor} (h : c.GoesTo c') :
    c'.rest.length ≤ c.rest.length := by
  obtain ⟨taken, hrest, -⟩ := h
  rw [hrest, List.length_append]
  exact Nat.le_add_left _ _

section

variable {v : View} {omitted : List Text} {source : Text} {first : Token} {rest : List Token}

theorem PlainToken.start_lt (h : PlainToken v omitted source first) : first.start < first.stop := by
  refine Nat.lt_of_not_le fun hle => h.nonempty ?_
  rw [← h.covers]
  exact List.drop_eq_nil_of_le (Nat.le_trans (List.length_take_le _ _) hle)

section

variable {last : Token} (hplain : PlainTokens v omitted source (first :: rest)) (hmem : last ∈ rest)

include hplain hmem

/-- The source from a plain word to a later one begins like the first of them. -/
theorem head?_between :
    ((source.take last.stop).drop first.start).head? = first.value.head? := by
  have hfirst := hplain.token first List.mem_cons_self
  have hlast := hplain.token last (List.mem_cons_of_mem _ hmem)
  obtain ⟨hlt, -⟩ := List.rel_of_pairwise_cons hplain.gap hmem
  have hstart := hfirst.start_lt
  have hend := hlast.start_lt
  rw [← hfirst.covers, List.head?_drop, List.head?_drop, List.getElem?_take, List.getElem?_take,
    if_pos (by omega), if_pos hstart]

/-- The source from a plain word to a later one ends like the last of them. -/
theorem getLast?_between :
    ((source.take last.stop).drop first.start).getLast? = last.value.getLast? := by
  have hfirst := hplain.token first List.mem_cons_self
  have hlast := hplain.token last (List.mem_cons_of_mem _ hmem)
  obtain ⟨hlt, -⟩ := List.rel_of_pairwise_cons hplain.gap hmem
  have hstart := hfirst.start_lt
  have hsuffix : last.value =
      ((source.take last.stop).drop first.start).drop (last.start - first.start) := by
    rw [List.drop_drop, ← hlast.covers]
    congr 1
    omega
  have hne := hlast.nonempty
  generalize (source.take last.stop).drop first.start = span at hsuffix ⊢
  rw [hsuffix] at hne ⊢
  rw [List.getLast?_drop, if_neg (by simpa using hne)]

/-- The source from a plain word to a later one has a blank in it. -/
theorem blank_between : ∃ b ∈ (source.take last.stop).drop first.start, isBlank b := by
  have hfirst := hplain.token first List.mem_cons_self
  have hlast := hplain.token last (List.mem_cons_of_mem _ hmem)
  obtain ⟨hlt, b, hgap, hb⟩ := List.rel_of_pairwise_cons hplain.gap hmem
  refine ⟨b, List.mem_of_getElem? (i := first.stop - first.start) ?_, hb⟩
  rw [List.getElem?_drop, Nat.add_sub_cancel' (Nat.le_of_lt hfirst.start_lt), List.getElem?_take,
    if_pos (Nat.lt_trans hlt hlast.start_lt)]
  exact hgap

end

/-- **The source from a plain word to this or a later one is no logical value.** -/
theorem not_readsAsLogical_span (hplain : PlainTokens v omitted source (first :: rest))
    (hsource : ∀ c ∈ source, ¬isDecimal c) {c : Cursor}
    (h : Cursor.GoesTo (.past first rest) c) :
    readsAsLogical (c.span source first.start) = false := by
  obtain ⟨taken, hrest, hlast⟩ := h
  have hfirst := hplain.token first List.mem_cons_self
  rcases List.eq_nil_or_concat taken with rfl | ⟨others, last, rfl⟩
  · have hword : c.span source first.start = first.value := by
      rw [Cursor.span, hlast]
      exact hfirst.covers
    rw [hword]
    exact not_readsAsLogical_word hfirst.nonempty hfirst.plain hfirst.meaningless
  · have hmem : last ∈ rest := by
      rw [show rest = others.concat last ++ c.rest from hrest]
      exact List.mem_append_left _ (by simp)
    have hspan : c.span source first.start = (source.take last.stop).drop first.start := by
      rw [Cursor.span, hlast, List.concat_eq_append, List.getLast?_concat]
      rfl
    have hword := hplain.token last (List.mem_cons_of_mem _ hmem)
    have hhead := head?_between hplain hmem
    have hback := getLast?_between hplain hmem
    obtain ⟨b, hbmem, hb⟩ := blank_between hplain hmem
    rw [hspan]
    refine not_readsAsLogical_of_blank (trim_of_not_isBlank (fun d hd => ?_) fun d hd => ?_)
      (fun d hd => hsource d (List.mem_of_mem_take (List.mem_of_mem_drop hd))) hb hbmem
    · exact not_isBlank_of_isPlain (hfirst.plain d (List.mem_of_mem_head? (hhead ▸ hd)))
    · exact not_isBlank_of_isPlain (hword.plain d (List.mem_of_mem_getLast? (hback ▸ hd)))

/-! ### Atoms of plain words -/

/-- No special form begins with a word that means nothing. -/
theorem special_plain (h : PlainToken v omitted source first) :
    Special.of? (first :: rest) = none := by
  have hstring : (first.kind == .string) = false := by rw [h.kind]; rfl
  have hforms : Special.forms.all (fun f => f.1.head?.any (· ∈ specialWords)) = true := by decide
  rw [Special.of?, Option.map_eq_none_iff, List.find?_eq_none]
  intro f hf heq
  have hhead := List.all_eq_true.mp hforms f hf
  cases hwords : f.1 with
  | nil => rw [hwords] at hhead; exact Bool.false_ne_true hhead
  | cons w ws =>
      rw [hwords] at hhead heq
      have hw : w = lower first.value := by
        have hcons := eq_of_beq heq
        rw [wordsOf, List.map_cons, List.map_cons, hstring] at hcons
        exact Option.some.inj (List.cons.inj hcons).1
      exact h.meaningless (hw ▸ by simpa using hhead)

theorem randomBound?_plain (h : PlainToken v omitted source first) :
    randomBound? v (first :: rest) = none := by
  have hno : (lower first.value == ("random" : Text)) = false := by
    refine beq_eq_false_iff_ne.mpr fun heq => h.meaningless ?_
    rw [heq]
    decide
  unfold randomBound?
  split
  · rename_i heq
    obtain ⟨rfl, -⟩ := List.cons.inj heq
    rw [hno, Bool.and_false, if_neg Bool.false_ne_true]
  · rfl

theorem propertyValue?_plain (h : PlainToken v omitted source first) (text : Text) :
    propertyValue? v text (first :: rest) = .ok none := by
  have hthe : first.isWord "the" = false := by
    refine Bool.eq_false_iff.mpr fun heq => h.meaningless ?_
    rw [eq_of_beq (Bool.and_eq_true_iff.mp heq).2]
    decide
  have hform : propertyForm? text (first :: rest) = none := by
    rw [propertyForm?, hthe]
    rfl
  rw [propertyValue?, hform]
  rfl

/-- An atom of plain words is its own text. -/
theorem evalAtom_plain (h : PlainToken v omitted source first) (text : Text) :
    evalAtom v text (first :: rest) = .ok text := by
  have hvariable : variableValue? v (first :: rest) = none := by
    cases rest with
    | nil => simp [variableValue?, h.unnamed]
    | cons second rest => rfl
  rw [evalAtom, List.isEmpty_cons, if_neg Bool.false_ne_true, special_plain h]
  dsimp only
  rw [randomBound?_plain h]
  dsimp only
  rw [propertyValue?_plain h, hvariable]
  rfl

end

end CardTalk.Expr
