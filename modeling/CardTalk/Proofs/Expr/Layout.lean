/-
Where the tokens of a text lie in it.

One step of the scanner takes a piece off the front of the text: a blank, a string, a number,
a word or a mark.  What each piece is made of, and what cannot follow it, is said by `Piece`;
`Laid` puts pieces one after the other, and `scan_laid` says that the tokens of every text
are laid in it this way.  What holds of all tokens of all texts is proved by induction on
`Laid`, without looking at the scanner again.

The one piece that takes an argument is a single quote that opens no string, since nothing
else could begin with it: it always lies inside a word, because what it follows is a letter, a
digit or an underscore, and a word does not end before a quote (`Fresh`).
-/
import CardTalk.Proofs.Expr.Lexing

namespace CardTalk.Token

open Text

/-- The operator characters, parentheses and commas: what is neither blank, quote nor part of
a word. -/
def isMark (c : Char) : Bool :=
  c ∈ ['&', '=', '<', '>', '!', '+', '-', '*', '/', '(', ')', ',']

theorem isMark_of_not_isWordPart {c : Char} (hblank : ¬isBlank c) (hpart : ¬isWordPart c)
    (hdouble : c ≠ '"') (hsingle : c ≠ '\'') : isMark c := by
  simp only [isWordPart, List.mem_cons, List.not_mem_nil, or_false] at hpart
  simp only [isMark, List.mem_cons, List.not_mem_nil, or_false, decide_eq_true_eq]
  simp only [hblank, hdouble, hsingle, false_or, Bool.not_false, Bool.true_and,
    decide_eq_true_eq, Classical.not_not] at hpart
  exact hpart

theorem not_isWordPart_of_isMark {c : Char} (h : isMark c) : ¬isWordPart c := by
  have hall : ['&', '=', '<', '>', '!', '+', '-', '*', '/', '(', ')', ','].all
      (fun c => !isWordPart c) = true := by decide
  have hno := List.all_eq_true.mp hall c (by simpa [isMark] using h)
  simpa using hno

theorem not_isBlank_of_isMark {c : Char} (h : isMark c) : ¬isBlank c := by
  have hall : ['&', '=', '<', '>', '!', '+', '-', '*', '/', '(', ')', ','].all
      (fun c => !isBlank c) = true := by decide
  have hno := List.all_eq_true.mp hall c (by simpa [isMark] using h)
  simpa using hno

/-- What opens a string is a quote. -/
theorem eq_quote_of_opens {previous : Option Char} {q : Char} (h : Quote.opens previous q) :
    q = '"' ∨ q = '\'' := by
  simp only [Quote.opens, Bool.or_eq_true, beq_iff_eq, Bool.and_eq_true] at h
  exact h.imp_right And.left

theorem not_isBlank_of_opens {previous : Option Char} {q : Char} (h : Quote.opens previous q) :
    ¬isBlank q := by
  rcases eq_quote_of_opens h with rfl | rfl <;> decide

theorem isWordPart_of_isAlphanumeric {c : Char} (h : isAlphanumeric c) : isWordPart c := by
  have hblank : isBlank c = false := by
    refine Bool.eq_false_iff.mpr fun hblank => ?_
    have hno : isAlphanumeric c = false :=
      forall_isBlank (P := fun c => isAlphanumeric c = false) (by decide +kernel) hblank
    rw [hno] at h
    exact Bool.false_ne_true h
  have hmarks : ['"', '\'', '&', '=', '<', '>', '!', '+', '-', '*', '/', '(', ')', ','].all
      (fun d => !isAlphanumeric d) = true := by decide
  have hmark : c ∉ ['"', '\'', '&', '=', '<', '>', '!', '+', '-', '*', '/', '(', ')', ','] := by
    intro hmem
    have hno := List.all_eq_true.mp hmarks c hmem
    rw [h] at hno
    exact Bool.false_ne_true hno
  simp only [isWordPart, hblank, hmark, not_false_eq_true, decide_true, Bool.not_false,
    Bool.and_self]

/-- Identifiers are made of parts of words. -/
theorem isWordPart_of_isWord {c : Char} (h : Text.isWord c) : isWordPart c := by
  rcases Bool.or_eq_true_iff.mp h with hc | hc
  · exact isWordPart_of_isAlphanumeric hc
  · rw [eq_of_beq hc]
    decide

/-! ### Pieces -/

/-- A token that stands between `previous` and `rest`: its kind, its value and how it is
written. -/
inductive Piece (previous : Option Char) (rest : Text) : Kind → Text → Text → Prop
  | string {q : Char} {v : Text} (hq : Quote.opens previous q) (hv : q ∉ v) :
      Piece previous rest .string v (q :: v ++ [q])
  /-- A string that is not closed goes on to the end. -/
  | unclosed {q : Char} {v : Text} (hq : Quote.opens previous q) (hv : q ∉ v) (hrest : rest = []) :
      Piece previous rest .string v (q :: v)
  | number {v : Text} (hne : v ≠ []) (hv : ∀ c ∈ v, isWordPart c) (hdigit : ∃ c ∈ v, isDecimal c)
      (hrest : Apart rest) : Piece previous rest .number v v
  | word {c : Char} {v : Text} (hc : isWordPart c) (hv : ∀ d ∈ v, isWordPart d ∨ d = '\'')
      (hrest : Apart rest) : Piece previous rest .word (c :: v) (c :: v)
  | mark {kind : Kind} {v : Text} (hkind : kind ≠ .string ∧ kind ≠ .number) (hne : v ≠ [])
      (hv : ∀ c ∈ v, isMark c) (hword : kind = .word → v = ['!']) : Piece previous rest kind v v

/-- Tokens lie in a text one after the other, with nothing but blanks between them.  The text
starts at a position of the source, behind the character `previous`. -/
inductive Laid : Nat → Option Char → Text → List Token → Prop
  | nil {position : Nat} {previous : Option Char} : Laid position previous [] []
  | blank {position : Nat} {previous : Option Char} {c : Char} {rest : Text} {tokens : List Token}
      (hc : isBlank c) (hrest : Laid (position + 1) (some c) rest tokens) :
      Laid position previous (c :: rest) tokens
  | token {position : Nat} {previous : Option Char} {kind : Kind} {value written rest : Text}
      {tokens : List Token} (hpiece : Piece previous rest kind value written)
      (hrest : Laid (position + written.length) written.getLast? rest tokens) :
      Laid position previous (written ++ rest)
        (⟨kind, value, position, position + written.length⟩ :: tokens)

/-! ### The scanner takes pieces -/

theorem apart_dropWhile (t : Text) : Apart (t.dropWhile goesOn) := by
  intro c hc
  have hno := List.head?_dropWhile_not goesOn t
  rw [hc] at hno
  simpa [goesOn] using hno

theorem wordAt_eq {c : Char} (hc : isWordPart c) (rest : Text) :
    wordAt (c :: rest) = (c :: rest).takeWhile goesOn := by
  have hhead : ∀ d ∈ (c :: rest).takeWhile isWordPart, goesOn d = true := by
    intro d hd
    have hpart := List.mem_takeWhile_imp hd
    simp [goesOn, hpart]
  have hne : ((c :: rest).takeWhile isWordPart).isEmpty = false := by
    rw [List.takeWhile_cons_of_pos hc]
    rfl
  have hsplit := List.prefix_iff_eq_append.mp (List.takeWhile_prefix isWordPart (l := c :: rest))
  unfold wordAt
  rw [if_neg (by simp [hne])]
  conv_rhs => rw [← hsplit, List.takeWhile_append_of_pos hhead]
  rfl

theorem numberAt_parts (t : Text) : ∀ c ∈ numberAt t, isWordPart c := by
  have hdecimal : ∀ (u : Text), ∀ c ∈ u.takeWhile isDecimal, isWordPart c := fun u c hc =>
    isWordPart_of_isDecimal (List.mem_takeWhile_imp hc)
  intro c hc
  unfold numberAt at hc
  dsimp only at hc
  split at hc
  · split at hc
    · exact hdecimal _ c hc
    · rcases List.mem_append.mp hc with hwhole | hplaces
      · exact hdecimal _ c hwhole
      · rcases List.mem_cons.mp hplaces with rfl | hplaces
        · decide
        · exact hdecimal _ c hplaces
  · exact hdecimal _ c hc

/-- A number has a digit. -/
theorem numberAt_digit {t : Text} (h : numberAt t ≠ []) : ∃ c ∈ numberAt t, isDecimal c := by
  have hdecimal : ∀ u : Text, u.takeWhile isDecimal ≠ [] →
      ∃ c ∈ u.takeWhile isDecimal, isDecimal c := by
    intro u hu
    obtain ⟨c, hc⟩ := List.exists_mem_of_ne_nil _ hu
    exact ⟨c, hc, List.mem_takeWhile_imp hc⟩
  unfold numberAt at h ⊢
  dsimp only at h ⊢
  split at h
  · rename_i rest _
    split at h
    · rename_i hempty
      simp only [hempty, if_true]
      exact hdecimal _ h
    · rename_i hplaces
      simp only [hplaces]
      obtain ⟨c, hc, hdigit⟩ := hdecimal rest (by simpa using hplaces)
      exact ⟨c, List.mem_append_right _ (List.mem_cons_of_mem _ hc), hdigit⟩
  · exact hdecimal _ h

/-- A prefix that a word could be made of is no longer than the word. -/
theorem length_le_takeWhile {u t : Text} (hinitial : u <+: t) (hu : ∀ c ∈ u, isWordPart c) :
    u.length ≤ (t.takeWhile goesOn).length := by
  obtain ⟨after, rfl⟩ := hinitial
  rw [List.takeWhile_append_of_pos fun c hc => by simp [goesOn, hu c hc], List.length_append]
  exact Nat.le_add_right _ _

theorem lexeme_part {c : Char} (previous : Option Char) (hc : isWordPart c) (rest : Text) :
    ∃ kind written after, c :: rest = written ++ after ∧
      lexeme previous c rest = (kind, written, written.length) ∧
      Piece previous after kind written written := by
  have hsplit : c :: rest = (c :: rest).takeWhile goesOn ++ (c :: rest).dropWhile goesOn :=
    List.takeWhile_append_dropWhile.symm
  have hword : (c :: rest).takeWhile goesOn = c :: rest.takeWhile goesOn :=
    List.takeWhile_cons_of_pos (by simp [goesOn, hc])
  have hapart := apart_dropWhile (c :: rest)
  rw [lexeme_of_isWordPart previous hc, wordAt_eq hc]
  by_cases hnumber : (!(numberAt (c :: rest)).isEmpty &&
      ((c :: rest).takeWhile goesOn).length ≤ (numberAt (c :: rest)).length) = true
  · have hne : numberAt (c :: rest) ≠ [] := by
      intro hnil
      simp [hnil] at hnumber
    have hlonger : ((c :: rest).takeWhile goesOn).length ≤ (numberAt (c :: rest)).length := by
      simpa using (Bool.and_eq_true_iff.mp hnumber).2
    have hinitial := prefix_numberAt (c :: rest)
    have hshorter := length_le_takeWhile hinitial (numberAt_parts _)
    have heq : numberAt (c :: rest) = (c :: rest).takeWhile goesOn :=
      (List.prefix_of_prefix_length_le hinitial (List.takeWhile_prefix _) hshorter).eq_of_length
        (Nat.le_antisymm hshorter hlonger)
    rw [if_pos hnumber]
    refine ⟨.number, numberAt (c :: rest), (c :: rest).dropWhile goesOn, ?_, rfl, ?_⟩
    · rw [heq]
      exact hsplit
    · exact .number hne (numberAt_parts _) (numberAt_digit hne) hapart
  · rw [if_neg hnumber, if_neg (by simp [hword])]
    refine ⟨.word, (c :: rest).takeWhile goesOn, (c :: rest).dropWhile goesOn, hsplit, rfl, ?_⟩
    rw [hword]
    exact .word hc (fun d hd => by simpa [goesOn] using List.mem_takeWhile_imp hd) hapart

theorem lexeme_quote {q : Char} {previous : Option Char} (hq : Quote.opens previous q)
    (rest : Text) :
    ∃ value written after, q :: rest = written ++ after ∧
      lexeme previous q rest = (.string, value, written.length) ∧
      Piece previous after .string value written := by
  have hinner : q ∉ rest.takeWhile (· != q) := fun hmem => by
    simpa using List.mem_takeWhile_imp hmem
  have hsplit : rest = rest.takeWhile (· != q) ++ rest.dropWhile (· != q) :=
    List.takeWhile_append_dropWhile.symm
  have hlexeme : lexeme previous q rest =
      (.string, (stringAt q rest).1, (stringAt q rest).2) := by
    unfold lexeme
    rw [if_pos hq]
  rw [hlexeme]
  cases hafter : rest.dropWhile (· != q) with
  | nil =>
      rw [hafter, List.append_nil] at hsplit
      refine ⟨_, q :: rest.takeWhile (· != q), [], ?_, ?_, .unclosed hq hinner rfl⟩
      · rw [List.append_nil, ← hsplit]
      · simp [stringAt, ← hsplit]
  | cons d after =>
      obtain rfl : d = q := by
        have hno := List.head?_dropWhile_not (· != q) rest
        rw [hafter] at hno
        simpa using hno
      rw [hafter] at hsplit
      have hshorter : (rest.takeWhile (· != d)).length < rest.length := by
        conv_rhs => rw [hsplit]
        rw [List.length_append, List.length_cons]
        omega
      refine ⟨_, d :: rest.takeWhile (· != d) ++ [d], after, ?_, ?_, .string hq hinner⟩
      · rw [List.append_assoc, List.singleton_append, List.cons_append, ← hsplit]
      · simp [stringAt, hshorter]

/-- A symbol is made of marks. -/
theorem isMark_of_mem_symbols {symbol : Text} (h : symbol ∈ symbols) :
    symbol ≠ [] ∧ ∀ c ∈ symbol, isMark c := by
  have hmarks : symbols.all (fun s => !s.isEmpty && s.all isMark) = true := by decide
  have hmark := List.all_eq_true.mp hmarks symbol h
  simpa only [Bool.and_eq_true, Bool.not_eq_true', List.isEmpty_eq_false_iff,
    List.all_eq_true] using hmark

/-- A mark that begins no symbol is `!`, unless it is a parenthesis or a comma: all the others are
symbols by themselves. -/
theorem eq_bang_of_isMark {c : Char} (hc : isMark c) (hopen : c ≠ '(') (hclose : c ≠ ')')
    (hcomma : c ≠ ',') {rest : Text}
    (hsymbol : (symbols.find? fun s => s.isPrefixOf (c :: rest)) = none) : c = '!' := by
  have hnone := List.find?_eq_none.mp hsymbol
  have hsymbols : ['&', '=', '<', '>', '+', '-', '*', '/'].all
      (fun d => symbols.contains [d]) = true := by decide
  refine Classical.byContradiction fun hne => ?_
  have hmem : c ∈ ['&', '=', '<', '>', '+', '-', '*', '/'] := by
    simp only [isMark, List.mem_cons, List.not_mem_nil, hopen, hclose, hcomma, hne, or_false,
      false_or, decide_eq_true_eq] at hc
    simpa only [List.mem_cons, List.not_mem_nil, or_false] using hc
  have hcontains := List.contains_iff_mem.mp (List.all_eq_true.mp hsymbols c hmem)
  exact hnone [c] hcontains (by simp)

theorem lexeme_mark {c : Char} {previous : Option Char} (hc : isMark c) (rest : Text) :
    ∃ kind written after, c :: rest = written ++ after ∧
      lexeme previous c rest = (kind, written, written.length) ∧
      Piece previous after kind written written := by
  have hquote : Quote.opens previous c = false := by
    refine Bool.eq_false_iff.mpr fun hq => ?_
    have hno : ¬isMark '"' ∧ ¬isMark '\'' := by decide
    rcases eq_quote_of_opens hq with rfl | rfl
    · exact hno.1 hc
    · exact hno.2 hc
  have single : ∀ kind : Kind, kind ≠ .string ∧ kind ≠ .number ∧ kind ≠ .word →
      lexeme previous c rest = (kind, [c], 1) →
      ∃ kind written after, c :: rest = written ++ after ∧
        lexeme previous c rest = (kind, written, written.length) ∧
        Piece previous after kind written written := by
    intro kind ⟨hstring, hnumber, hword⟩ hlexeme
    refine ⟨kind, [c], rest, rfl, hlexeme, .mark ⟨hstring, hnumber⟩ (by simp) ?_ ?_⟩
    · exact fun d hd => List.mem_singleton.mp hd ▸ hc
    · exact fun h => absurd h hword
  unfold lexeme at single ⊢
  rw [hquote, if_neg Bool.false_ne_true] at single ⊢
  by_cases hopen : c = '('
  · exact single .open (by decide) (if_pos hopen)
  rw [if_neg hopen] at single ⊢
  by_cases hclose : c = ')'
  · exact single .close (by decide) (if_pos hclose)
  rw [if_neg hclose] at single ⊢
  by_cases hcomma : c = ','
  · exact single .comma (by decide) (if_pos hcomma)
  rw [if_neg hcomma]
  cases hsymbol : symbols.find? fun s => s.isPrefixOf (c :: rest) with
  | some symbol =>
      obtain ⟨hne, hmarks⟩ := isMark_of_mem_symbols (List.mem_of_find?_eq_some hsymbol)
      obtain ⟨after, hafter⟩ := List.isPrefixOf_iff_prefix.mp
        (List.find?_some (p := fun s : Text => s.isPrefixOf (c :: rest)) hsymbol)
      refine ⟨.operator, symbol, after, hafter.symm, rfl, ?_⟩
      exact .mark (by decide) hne hmarks fun h => nomatch h
  | none =>
      obtain rfl := eq_bang_of_isMark hc hopen hclose hcomma hsymbol
      have hword : wordAt ('!' :: rest) = [] := by
        rw [wordAt, List.takeWhile_cons_of_neg (not_isWordPart_of_isMark hc)]
        rfl
      have hnumber : numberAt ('!' :: rest) = [] := by
        have hdigit : ¬isDecimal '!' := by decide
        rw [numberAt, List.takeWhile_cons_of_neg hdigit]
        rfl
      refine ⟨.word, ['!'], rest, rfl, ?_, ?_⟩
      · simp only [hword, hnumber]
        rfl
      · exact .mark (by decide) (by simp) (fun d hd => List.mem_singleton.mp hd ▸ hc) fun _ => rfl

/-- A single quote that comes next opens a string. -/
def Fresh (previous : Option Char) (t : Text) : Prop :=
  ∀ c ∈ t.head?, c = '\'' → Quote.opens previous c

theorem fresh_of_not_isWordPart {previous : Char} (h : ¬isWordPart previous) (t : Text) :
    Fresh (some previous) t := by
  rintro c - rfl
  have hword : Text.isWord previous = false :=
    Bool.eq_false_iff.mpr fun hword => h (isWordPart_of_isWord hword)
  simp [Quote.opens, hword]

/-- Every character that is no blank begins a piece. -/
theorem lexeme_piece {c : Char} {previous : Option Char} {rest : Text} (hblank : ¬isBlank c)
    (hfresh : Fresh previous (c :: rest)) :
    ∃ kind value written after, c :: rest = written ++ after ∧
      lexeme previous c rest = (kind, value, written.length) ∧
      Piece previous after kind value written := by
  by_cases hquote : Quote.opens previous c
  · exact ⟨.string, lexeme_quote hquote rest⟩
  by_cases hpart : isWordPart c
  · obtain ⟨kind, written, after, h⟩ := lexeme_part previous hpart rest
    exact ⟨kind, written, written, after, h⟩
  have hdouble : c ≠ '"' := by
    rintro rfl
    exact hquote rfl
  have hmark := isMark_of_not_isWordPart hblank hpart hdouble fun h => hquote (hfresh c rfl h)
  obtain ⟨kind, written, after, h⟩ := lexeme_mark hmark rest
  exact ⟨kind, written, written, after, h⟩

theorem Piece.ne_nil {previous : Option Char} {rest value written : Text} {kind : Kind}
    (h : Piece previous rest kind value written) : written ≠ [] := by
  cases h with
  | string | unclosed | word => simp
  | number hne => exact hne
  | mark _ hne => exact hne

/-- Behind a piece a single quote opens a string. -/
theorem Piece.fresh {previous : Option Char} {rest value written : Text} {kind : Kind}
    (h : Piece previous rest kind value written) : Fresh written.getLast? rest := by
  cases h with
  | @string q v hq hv =>
      have hpart : ¬isWordPart q := by
        rcases eq_quote_of_opens hq with rfl | rfl <;> decide
      rw [List.getLast?_concat]
      exact fresh_of_not_isWordPart hpart rest
  | unclosed _ _ hrest =>
      rw [hrest]
      exact fun c hc => nomatch hc
  | number _ _ _ hrest => exact fun c hc h => absurd h (hrest c hc).2
  | word _ _ hrest => exact fun c hc h => absurd h (hrest c hc).2
  | mark _ hne hv =>
      rw [List.getLast?_eq_some_getLast hne]
      exact fresh_of_not_isWordPart (not_isWordPart_of_isMark (hv _ (List.getLast_mem hne))) rest

theorem scanFrom_laid : ∀ {fuel : Nat} (position : Nat) {previous : Option Char} {t : Text},
    t.length ≤ fuel → Fresh previous t →
      Laid position previous t (scanFrom fuel position previous t) := by
  intro fuel
  induction fuel with
  | zero =>
      intro position previous t hfuel _
      obtain rfl := List.eq_nil_of_length_eq_zero (Nat.le_zero.mp hfuel)
      exact .nil
  | succ fuel ih =>
      intro position previous t hfuel hfresh
      cases t with
      | nil => exact .nil
      | cons c rest =>
          rw [scanFrom]
          by_cases hblank : isBlank c
          · rw [if_pos hblank]
            have hpart : ¬isWordPart c := fun hpart => not_isBlank_of_isWordPart hpart hblank
            refine .blank hblank (ih _ (Nat.le_of_succ_le_succ hfuel) ?_)
            exact fresh_of_not_isWordPart hpart rest
          · obtain ⟨kind, value, written, after, hsplit, hlexeme, hpiece⟩ :=
              lexeme_piece hblank hfresh
            have hpos := List.length_pos_iff.mpr hpiece.ne_nil
            have hlast : (written ++ after)[written.length - 1]? = written.getLast? := by
              rw [List.getElem?_append_left (Nat.sub_lt hpos Nat.one_pos),
                List.getLast?_eq_getElem?]
            rw [if_neg hblank, hlexeme]
            dsimp only
            rw [hsplit] at hfuel ⊢
            rw [List.drop_left, hlast]
            rw [List.length_append] at hfuel
            exact .token hpiece (ih _ (by omega) hpiece.fresh)

/-- **The tokens of a text lie in it one after the other, with only blanks between them.** -/
theorem scan_laid (t : Text) : Laid 0 none t (scan t) :=
  scanFrom_laid 0 (Nat.le_refl _) fun c _ h => by simp [Quote.opens, h]

/-! ### Where tokens begin and end -/

theorem Piece.not_isBlank_head {previous : Option Char} {rest value written : Text} {kind : Kind}
    (h : Piece previous rest kind value written) : ∀ c ∈ written.head?, ¬isBlank c := by
  intro c hc
  cases h with
  | @string q v hq hv => exact (Option.some.inj hc) ▸ not_isBlank_of_opens hq
  | @unclosed q v hq hv hrest => exact (Option.some.inj hc) ▸ not_isBlank_of_opens hq
  | number _ hv => exact not_isBlank_of_isWordPart (hv c (List.mem_of_mem_head? hc))
  | word hpart => exact (Option.some.inj hc) ▸ not_isBlank_of_isWordPart hpart
  | mark _ _ hv => exact not_isBlank_of_isMark (hv c (List.mem_of_mem_head? hc))

theorem Laid.start_le {position : Nat} {previous : Option Char} {t : Text} {tokens : List Token}
    (h : Laid position previous t tokens) : ∀ token ∈ tokens, position ≤ token.start := by
  induction h with
  | nil => exact fun _ h => nomatch h
  | blank _ _ ih => exact fun token htoken => Nat.le_of_succ_le (ih token htoken)
  | token _ _ ih =>
      intro token htoken
      rcases List.mem_cons.mp htoken with rfl | htoken
      · exact Nat.le_refl _
      · exact Nat.le_of_add_right_le (ih token htoken)

theorem Laid.tokens_nil {position : Nat} {previous : Option Char} {tokens : List Token}
    (h : Laid position previous [] tokens) : tokens = [] := by
  generalize ht : ([] : Text) = t at h
  cases h with
  | nil => rfl
  | blank => exact nomatch ht
  | token hpiece => exact absurd (List.append_eq_nil_iff.mp ht.symm).1 hpiece.ne_nil

/-- Tokens of a text that begins with a blank start behind it. -/
theorem Laid.start_lt {position : Nat} {previous : Option Char} {c : Char} {t : Text}
    {tokens : List Token} (hc : isBlank c) (h : Laid position previous (c :: t) tokens) :
    ∀ token ∈ tokens, position < token.start := by
  generalize ht : c :: t = u at h
  cases h with
  | nil => exact nomatch ht
  | blank _ hrest => exact hrest.start_le
  | @token _ _ kind value written rest tokens hpiece hrest =>
      have hhead : c ∈ written.head? := by
        cases written with
        | nil => exact absurd rfl hpiece.ne_nil
        | cons d written => exact congrArg some (List.cons.inj ht).1.symm
      exact absurd hc (hpiece.not_isBlank_head c hhead)

/-- A text that begins with no blank begins with its first token. -/
theorem Laid.start_head {position : Nat} {previous : Option Char} {c : Char} {t : Text}
    {tokens : List Token} (hc : ¬isBlank c) (h : Laid position previous (c :: t) tokens) :
    ∃ token rest, tokens = token :: rest ∧ token.start = position := by
  generalize ht : c :: t = u at h
  cases h with
  | nil => exact nomatch ht
  | blank hblank => exact absurd ((List.cons.inj ht).1 ▸ hblank) hc
  | token => exact ⟨_, _, rfl, rfl⟩

/-- A text that ends in no blank ends with its last token. -/
theorem Laid.stop_last {position : Nat} {previous : Option Char} {t : Text} {tokens : List Token}
    (h : Laid position previous t tokens) (hne : t ≠ [])
    (hlast : ∀ c ∈ t.getLast?, ¬isBlank c) :
    ∃ token ∈ tokens.getLast?, token.stop = position + t.length := by
  induction h with
  | nil => exact absurd rfl hne
  | @blank position previous c rest tokens hc hrest ih =>
      have hrest : rest ≠ [] := by
        rintro rfl
        exact hlast c rfl hc
      obtain ⟨token, htoken, hstop⟩ := ih hrest fun d hd => hlast d (by
        rw [List.getLast?_cons_of_ne_nil hrest]
        exact hd)
      exact ⟨token, htoken, by rw [hstop, List.length_cons]; omega⟩
  | @token position previous kind value written rest tokens hpiece hrest ih =>
      by_cases hempty : rest = []
      · subst hempty
        obtain rfl := hrest.tokens_nil
        exact ⟨_, rfl, by rw [List.append_nil, List.getLast_singleton]⟩
      · obtain ⟨token, htoken, hstop⟩ := ih hempty fun d hd => hlast d (by
          rw [List.getLast?_append_of_ne_nil _ hempty]
          exact hd)
        have hne : tokens ≠ [] := by
          rintro rfl
          exact nomatch htoken
        refine ⟨token, ?_, ?_⟩
        · rw [List.getLast?_cons_of_ne_nil hne]
          exact htoken
        · rw [hstop, List.length_append]
          omega

end CardTalk.Token
