/-
Tokens that are written with spaces between them.

A token is written as its value, a string between double quotes.  What a token can be,
apart from its place, is the type `Lexeme`; each is read back as it is from wherever it is
written before something that it does not go on with (`Lexeme.EndsBefore`).  A space is such
a thing, so a row of tokens is cut at the spaces: `scan_row`.
-/
import CardTalk.Proofs.Text.Blank
import CardTalk.Expr.Token
import Mathlib.Data.List.Forall2

namespace CardTalk.Token

open Text

/-! ### What is written -/

/-- A text is one word. -/
structure IsWord (t : Text) : Prop where
  nonempty : t ≠ []
  whole : wordAt t = t
  noNumber : numberAt t ≠ t

/-- A text is one unsigned number. -/
structure IsNumeral (t : Text) : Prop where
  nonempty : t ≠ []
  whole : numberAt t = t

instance (t : Text) : Decidable (IsWord t) :=
  decidable_of_iff (t ≠ [] ∧ wordAt t = t ∧ numberAt t ≠ t)
    ⟨fun ⟨h, h', h''⟩ => ⟨h, h', h''⟩, fun ⟨h, h', h''⟩ => ⟨h, h', h''⟩⟩

instance (t : Text) : Decidable (IsNumeral t) :=
  decidable_of_iff (t ≠ [] ∧ numberAt t = t) ⟨fun ⟨h, h'⟩ => ⟨h, h'⟩, fun ⟨h, h'⟩ => ⟨h, h'⟩⟩

/-- A token without its place. -/
inductive Lexeme where
  | string (value : Text) (h : '"' ∉ value)
  | number (value : Text) (h : IsNumeral value)
  | word (value : Text) (h : IsWord value)
  | operator (symbol : Text) (h : symbol ∈ symbols)
  | open
  | close
  | comma

namespace Lexeme

/-- The kind of a token. -/
def kind : Lexeme → Kind
  | string .. => .string
  | number .. => .number
  | word .. => .word
  | operator .. => .operator
  | .open => .open
  | close => .close
  | comma => .comma

/-- The value of a token. -/
def value : Lexeme → Text
  | string v _ | number v _ | word v _ | operator v _ => v
  | .open => ['(']
  | close => [')']
  | comma => [',']

/-- How a token is written. -/
def written : Lexeme → Text
  | string v _ => '"' :: v ++ ['"']
  | l => l.value

/-- A token is this one, wherever it stands. -/
def IsAt (l : Lexeme) (token : Token) : Prop := token.kind = l.kind ∧ token.value = l.value

end Lexeme

/-! ### Characters of words and numbers -/

theorem not_isBlank_of_isWordPart {c : Char} (h : isWordPart c) : ¬isBlank c := by
  unfold isWordPart at h
  intro hblank
  simp [hblank] at h

theorem isWordPart_of_isDecimal {c : Char} (h : isDecimal c) : isWordPart c := by
  unfold isWordPart
  have hblank : isBlank c = false := by
    refine Bool.eq_false_iff.mpr fun hblank => ?_
    have hno : isDecimal c = false :=
      forall_isBlank (P := fun c => isDecimal c = false) (by decide +kernel) hblank
    rw [hno] at h
    exact Bool.false_ne_true h
  have hmark : ['"', '\'', '&', '=', '<', '>', '!', '+', '-', '*', '/', '(', ')', ','].all
      (fun d => !isDecimal d) = true := by decide
  have hnot : c ∉ ['"', '\'', '&', '=', '<', '>', '!', '+', '-', '*', '/', '(', ')', ','] := by
    intro hmem
    have hno := List.all_eq_true.mp hmark c hmem
    rw [h] at hno
    exact Bool.false_ne_true hno
  simp only [hblank, hnot, not_false_eq_true, decide_true, Bool.not_false, Bool.and_self]

/-- No symbol begins like a word. -/
theorem find?_symbols {c : Char} (h : isWordPart c) (rest : Text) :
    (symbols.find? fun s => s.isPrefixOf (c :: rest)) = none := by
  refine List.find?_eq_none.mpr fun s hs hinitial => ?_
  have hmarks : symbols.all (fun s => s.head?.any fun d => !isWordPart d) = true := by decide
  have hno := List.all_eq_true.mp hmarks s hs
  cases s with
  | nil => exact Bool.false_ne_true hno
  | cons d s =>
      have hdc : d = c := (List.cons_prefix_cons.mp (List.isPrefixOf_iff_prefix.mp hinitial)).1
      rw [List.head?_cons, Option.any_some, hdc, h] at hno
      exact Bool.false_ne_true hno

/-! ### What may come right behind a token -/

/-- What a word goes on with: its parts and apostrophes. -/
def goesOn (c : Char) : Bool := isWordPart c || c == '\''

/-- A word does not end here: what follows is neither part of it nor an apostrophe. -/
def Apart (rest : Text) : Prop := ∀ c ∈ rest.head?, ¬isWordPart c ∧ c ≠ '\''

/-- The token does not go on with what is written right behind it. -/
def Lexeme.EndsBefore (l : Lexeme) (rest : Text) : Prop :=
  match l with
  | .number .. | .word .. => Apart rest
  | .operator symbol _ => ∀ s ∈ symbols, s <+: symbol ++ rest → s.length ≤ symbol.length
  | _ => True

/-- What comes after a token in a row: a space or nothing. -/
def Ends (rest : Text) : Prop := rest = [] ∨ ∃ more, rest = ' ' :: more

theorem goesOn_of_isWordPart {c : Char} (h : isWordPart c) : goesOn c := by
  rw [goesOn, h, Bool.true_or]

theorem goesOn_of_isDecimal {c : Char} (h : isDecimal c) : goesOn c :=
  goesOn_of_isWordPart (isWordPart_of_isDecimal h)

/-- No token goes on with a space. -/
theorem Ends.endsBefore {rest : Text} (h : Ends rest) (l : Lexeme) : l.EndsBefore rest := by
  have hapart : Apart rest := by
    intro c hc
    rcases h with rfl | ⟨more, rfl⟩
    · exact nomatch hc
    · obtain rfl := Option.some.inj hc
      decide
  cases l with
  | number => exact hapart
  | word => exact hapart
  | operator symbol hsymbol =>
      intro s hs hinitial
      have hspaceless : symbols.all (fun s => ' ' ∉ s) = true := by decide
      have hno : ' ' ∉ s := by simpa using List.all_eq_true.mp hspaceless s hs
      rcases h with rfl | ⟨more, rfl⟩
      · rw [List.append_nil] at hinitial
        exact hinitial.length_le
      · refine Nat.le_of_not_lt fun hlonger => hno ?_
        have hspace : symbol ++ [' '] <+: s := by
          have hfront := (List.prefix_append_right_inj symbol).mpr (List.prefix_append [' '] more)
          exact List.prefix_of_prefix_length_le hfront hinitial
            (by simpa using Nat.succ_le_of_lt hlonger)
        exact hspace.subset (List.mem_append_right _ (List.mem_singleton_self _))
  | string => trivial
  | «open» => trivial
  | close => trivial
  | comma => trivial

theorem takeWhile_apart {p : Char → Bool} (hp : ∀ c, p c → goesOn c) {rest : Text}
    (h : Apart rest) (t : Text) : (t ++ rest).takeWhile p = t.takeWhile p := by
  have hrest : rest.takeWhile p = [] := by
    cases rest with
    | nil => rfl
    | cons c rest =>
        refine List.takeWhile_cons_of_neg fun hc => ?_
        obtain ⟨hpart, hquote⟩ := h c rfl
        simpa [goesOn, hpart, hquote] using hp c hc
  rw [List.takeWhile_append, hrest, List.append_nil]
  split
  · rename_i hlength
    exact ((List.takeWhile_prefix p).eq_of_length hlength).symm
  · rfl

theorem drop_takeWhile (p : Char → Bool) (t rest : Text) :
    (t ++ rest).drop (t.takeWhile p).length = t.drop (t.takeWhile p).length ++ rest :=
  List.drop_append_of_le_length (List.takeWhile_prefix p).length_le

/-- A number does not go on with what a word would not go on with, not even with a point. -/
theorem numberAt_apart {rest : Text} (h : Apart rest) (t : Text) :
    numberAt (t ++ rest) = numberAt t := by
  unfold numberAt
  rw [takeWhile_apart (fun _ => goesOn_of_isDecimal) h]
  dsimp only
  rw [drop_takeWhile]
  cases t.drop (t.takeWhile isDecimal).length with
  | nil =>
      rw [List.nil_append]
      split
      · exact absurd (by decide) (h '.' rfl).1
      · rfl
  | cons c u =>
      by_cases hc : c = '.'
      · have hu := takeWhile_apart (p := isDecimal) (fun _ => goesOn_of_isDecimal) h u
        subst hc
        simp only [List.cons_append, hu]
      · simp [hc]

theorem wordAt_apart {rest : Text} (h : Apart rest) (t : Text) :
    wordAt (t ++ rest) = wordAt t := by
  unfold wordAt
  have hhead := takeWhile_apart (p := isWordPart) (fun _ => goesOn_of_isWordPart) h t
  have htail := takeWhile_apart (p := fun c => isWordPart c || c == '\'') (fun _ hc => hc) h
    (t.drop (t.takeWhile isWordPart).length)
  rw [hhead]
  dsimp only
  rw [drop_takeWhile, htail]

theorem prefix_numberAt (t : Text) : numberAt t <+: t := by
  have hwhole : t.takeWhile isDecimal <+: t := List.takeWhile_prefix _
  unfold numberAt
  dsimp only
  split
  · rename_i rest hrest
    split
    · exact hwhole
    · obtain ⟨after, hafter⟩ := List.takeWhile_prefix isDecimal (l := rest)
      refine ⟨after, ?_⟩
      rw [List.append_assoc, List.cons_append, hafter, ← hrest]
      exact List.prefix_iff_eq_append.mp hwhole
  · exact hwhole

theorem prefix_wordAt (t : Text) : wordAt t <+: t := by
  unfold wordAt
  dsimp only
  split
  · exact List.nil_prefix
  · obtain ⟨after, hafter⟩ := List.takeWhile_prefix (fun c => isWordPart c || c == '\'')
      (l := t.drop (t.takeWhile isWordPart).length)
    refine ⟨after, ?_⟩
    rw [List.append_assoc, hafter]
    exact List.prefix_iff_eq_append.mp (List.takeWhile_prefix _)

theorem isWordPart_of_wordAt {c : Char} {t : Text} (h : wordAt (c :: t) = c :: t) :
    isWordPart c := by
  refine Classical.byContradiction fun hc => ?_
  rw [wordAt, List.takeWhile_cons_of_neg hc] at h
  exact nomatch h

theorem isWordPart_of_numberAt {c : Char} {t : Text} (h : numberAt (c :: t) = c :: t) :
    isWordPart c := by
  by_cases hc : isDecimal c
  · exact isWordPart_of_isDecimal hc
  · rw [numberAt, List.takeWhile_cons_of_neg hc] at h
    dsimp only [List.length_nil, List.drop_zero] at h
    split at h
    · rename_i heq
      rw [(List.cons.inj heq).1]
      decide
    · exact nomatch h

/-! ### One token -/

/-- What begins like a word is no quote and no mark. -/
theorem lexeme_of_isWordPart (previous : Option Char) {c : Char} (hc : isWordPart c) (rest : Text) :
    lexeme previous c rest =
      if !(numberAt (c :: rest)).isEmpty &&
        (wordAt (c :: rest)).length ≤ (numberAt (c :: rest)).length
      then (.number, numberAt (c :: rest), (numberAt (c :: rest)).length)
      else if (wordAt (c :: rest)).isEmpty then (.word, [c], 1)
      else (.word, wordAt (c :: rest), (wordAt (c :: rest)).length) := by
  have hne : ∀ d, isWordPart d = false → c ≠ d := fun d hd heq =>
    Bool.false_ne_true (hd.symm.trans (heq ▸ hc))
  have hquote : Quote.opens previous c = false := by
    simp [Quote.opens, hne '"' (by decide), hne '\'' (by decide)]
  unfold lexeme
  rw [hquote, if_neg Bool.false_ne_true, if_neg (hne '(' (by decide)), if_neg (hne ')' (by decide)),
    if_neg (hne ',' (by decide)), find?_symbols hc]

theorem lexeme_quoted {q : Char} {previous : Option Char} (hq : Quote.opens previous q) {v : Text}
    (hv : q ∉ v) (rest : Text) :
    lexeme previous q (v ++ q :: rest) = (.string, v, v.length + 2) := by
  have hpass : ∀ c ∈ v, (c != q) = true := fun c hc => by
    simpa using fun heq : c = q => hv (heq ▸ hc)
  have hinner : (v ++ q :: rest).takeWhile (· != q) = v := by
    rw [List.takeWhile_append_of_pos hpass, List.takeWhile_cons_of_neg (by simp), List.append_nil]
  have hstring : stringAt q (v ++ q :: rest) = (v, v.length + 2) := by
    unfold stringAt
    dsimp only
    rw [hinner, if_pos (by simp)]
  unfold lexeme
  rw [if_pos hq, hstring]

theorem lexeme_string (previous : Option Char) {v : Text} (hv : '"' ∉ v) (rest : Text) :
    lexeme previous '"' (v ++ ['"'] ++ rest) = (.string, v, v.length + 2) := by
  rw [List.append_assoc]
  exact lexeme_quoted rfl hv rest

theorem lexeme_number (previous : Option Char) {c : Char} {u rest : Text}
    (hv : IsNumeral (c :: u)) (h : Apart rest) :
    lexeme previous c (u ++ rest) = (.number, c :: u, (c :: u).length) := by
  have hnumber : numberAt (c :: (u ++ rest)) = c :: u :=
    (numberAt_apart h (c :: u)).trans hv.whole
  have hword : (wordAt (c :: (u ++ rest))).length ≤ (c :: u).length :=
    (congrArg List.length (wordAt_apart h (c :: u))).trans_le (prefix_wordAt _).length_le
  rw [lexeme_of_isWordPart previous (isWordPart_of_numberAt hv.whole), hnumber,
    if_pos (by simpa using hword)]

theorem lexeme_word (previous : Option Char) {c : Char} {u rest : Text} (hv : IsWord (c :: u))
    (h : Apart rest) : lexeme previous c (u ++ rest) = (.word, c :: u, (c :: u).length) := by
  have hword : wordAt (c :: (u ++ rest)) = c :: u := (wordAt_apart h (c :: u)).trans hv.whole
  have hshorter : (numberAt (c :: (u ++ rest))).length < (c :: u).length := by
    rw [show numberAt (c :: (u ++ rest)) = numberAt (c :: u) from numberAt_apart h (c :: u)]
    have hinitial := prefix_numberAt (c :: u)
    exact Nat.lt_of_le_of_ne hinitial.length_le fun heq => hv.noNumber (hinitial.eq_of_length heq)
  rw [lexeme_of_isWordPart previous (isWordPart_of_wordAt hv.whole), hword,
    if_neg (by simpa using fun _ => hshorter)]
  rfl

/-- A symbol is found if no longer symbol is there: none of those before it in the list
begins it. -/
theorem find?_symbols_longest {symbol rest : Text} (hsymbol : symbol ∈ symbols)
    (h : ∀ s ∈ symbols, s <+: symbol ++ rest → s.length ≤ symbol.length) :
    (symbols.find? fun s => s.isPrefixOf (symbol ++ rest)) = some symbol := by
  have hlater : symbols.Pairwise fun s s' => ¬s <+: s' := by decide
  have hinitial : symbol <+: symbol ++ rest := List.prefix_append _ _
  cases hfind : symbols.find? fun s => s.isPrefixOf (symbol ++ rest) with
  | none =>
      have hno := List.find?_eq_none.mp hfind symbol hsymbol
      exact absurd (List.isPrefixOf_iff_prefix.mpr hinitial) hno
  | some s =>
      obtain ⟨hs, before, after, hsplit, hbefore⟩ := List.find?_eq_some_iff_append.mp hfind
      have hs := List.isPrefixOf_iff_prefix.mp hs
      have hshorter : s <+: symbol :=
        List.prefix_of_prefix_length_le hs hinitial (h s (List.mem_of_find?_eq_some hfind) hs)
      rw [hsplit] at hsymbol hlater
      rcases List.mem_append.mp hsymbol with hmem | hmem
      · have hno := hbefore symbol hmem
        rw [List.isPrefixOf_iff_prefix.mpr hinitial] at hno
        exact absurd hno (by decide)
      · rcases List.mem_cons.mp hmem with rfl | hmem
        · rfl
        · have hpairs := (List.pairwise_append.mp hlater).2.1
          exact absurd hshorter (List.rel_of_pairwise_cons hpairs hmem)

theorem lexeme_symbol (previous : Option Char) {c : Char} {u rest : Text}
    (hsymbol : c :: u ∈ symbols)
    (h : ∀ s ∈ symbols, s <+: c :: u ++ rest → s.length ≤ (c :: u).length) :
    lexeme previous c (u ++ rest) = (.operator, c :: u, (c :: u).length) := by
  have hheads : symbols.all (fun s => s.head?.all fun d =>
      d ∉ ['"', '\'', '(', ')', ',']) = true := by decide
  have hhead := List.all_eq_true.mp hheads _ hsymbol
  simp only [List.head?_cons, Option.all_some, List.mem_cons, List.not_mem_nil, or_false, not_or,
    decide_eq_true_eq] at hhead
  obtain ⟨hdouble, hsingle, hopen, hclose, hcomma⟩ := hhead
  have hquote : Quote.opens previous c = false := by simp [Quote.opens, hdouble, hsingle]
  unfold lexeme
  rw [hquote, if_neg Bool.false_ne_true, if_neg hopen, if_neg hclose, if_neg hcomma,
    show c :: (u ++ rest) = c :: u ++ rest from rfl, find?_symbols_longest hsymbol h]

/-- A token that is written is read back. -/
theorem lexeme_written (l : Lexeme) (previous : Option Char) {rest : Text}
    (h : l.EndsBefore rest) :
    ∃ c u, l.written = c :: u ∧ ¬isBlank c ∧
      lexeme previous c (u ++ rest) = (l.kind, l.value, l.written.length) := by
  cases l with
  | string v hv =>
      refine ⟨'"', v ++ ['"'], rfl, by decide, (lexeme_string previous hv rest).trans ?_⟩
      simp [Lexeme.kind, Lexeme.value, Lexeme.written]
  | number v hv =>
      cases v with
      | nil => exact absurd rfl hv.nonempty
      | cons c u =>
          have hc := not_isBlank_of_isWordPart (isWordPart_of_numberAt hv.whole)
          exact ⟨c, u, rfl, hc, lexeme_number previous hv h⟩
  | word v hv =>
      cases v with
      | nil => exact absurd rfl hv.nonempty
      | cons c u =>
          have hc := not_isBlank_of_isWordPart (isWordPart_of_wordAt hv.whole)
          exact ⟨c, u, rfl, hc, lexeme_word previous hv h⟩
  | operator s hs =>
      have hmarks : symbols.all (fun s => s.head?.any fun d => !isBlank d) = true := by decide
      have hmark := List.all_eq_true.mp hmarks s hs
      cases s with
      | nil => exact absurd hmark Bool.false_ne_true
      | cons c u => exact ⟨c, u, rfl, by simpa using hmark, lexeme_symbol previous hs h⟩
  | «open» => exact ⟨'(', [], rfl, by decide, rfl⟩
  | close => exact ⟨')', [], rfl, by decide, rfl⟩
  | comma => exact ⟨',', [], rfl, by decide, rfl⟩

/-! ### A row of tokens -/

/-- Tokens written with a space between each two. -/
def row (ls : List Lexeme) : Text := joined [' '] (ls.map Lexeme.written)

theorem row_cons (l m : Lexeme) (ls : List Lexeme) :
    row (l :: m :: ls) = l.written ++ ' ' :: row (m :: ls) := by
  simp [row, joined, List.intercalate]

/-- A token that is written at a position. -/
def Lexeme.token (l : Lexeme) (position : Nat) : Token :=
  ⟨l.kind, l.value, position, position + l.written.length⟩

/-- The tokens of a row that starts at a position. -/
def rowTokens : Nat → List Lexeme → List Token
  | _, [] => []
  | position, l :: ls => l.token position :: rowTokens (position + l.written.length + 1) ls

theorem rowTokens_isAt (ls : List Lexeme) :
    ∀ position, List.Forall₂ Lexeme.IsAt ls (rowTokens position ls) := by
  induction ls with
  | nil => exact fun _ => .nil
  | cons l ls ih => exact fun _ => .cons ⟨rfl, rfl⟩ (ih _)

/-- One step of cutting takes the token that is written first. -/
theorem scanFrom_written (l : Lexeme) {rest : Text} (h : l.EndsBefore rest) {fuel : Nat}
    (position : Nat) (previous : Option Char) (hfuel : (l.written ++ rest).length ≤ fuel) :
    ∃ fuel' previous', rest.length ≤ fuel' ∧
      scanFrom fuel position previous (l.written ++ rest) =
        l.token position :: scanFrom fuel' (position + l.written.length) previous' rest := by
  obtain ⟨c, u, hwritten, hc, hlexeme⟩ := lexeme_written l previous h
  have hdrop : (c :: (u ++ rest)).drop l.written.length = rest := by
    rw [hwritten]
    exact List.drop_left
  have htoken : l.token position = ⟨l.kind, l.value, position, position + l.written.length⟩ := rfl
  rw [htoken]
  rw [hwritten, List.cons_append] at hfuel ⊢
  rw [hwritten] at hlexeme hdrop
  obtain ⟨fuel', rfl⟩ : ∃ n, fuel = n + 1 := ⟨fuel - 1, by simp at hfuel; omega⟩
  rw [scanFrom, if_neg hc, hlexeme]
  dsimp only
  rw [hdrop]
  refine ⟨fuel', _, ?_, rfl⟩
  simp only [List.length_cons, List.length_append] at hfuel
  omega

theorem scanFrom_row (ls : List Lexeme) : ∀ {fuel : Nat} (position : Nat) (previous : Option Char),
    (row ls).length ≤ fuel →
      scanFrom fuel position previous (row ls) = rowTokens position ls := by
  have hnil : ∀ fuel position previous, scanFrom fuel position previous [] = [] := by
    intro fuel position previous
    cases fuel <;> rfl
  induction ls with
  | nil => exact fun position previous _ => hnil _ position previous
  | cons l ls ih =>
      intro fuel position previous hfuel
      cases ls with
      | nil =>
          have hrow : row [l] = l.written ++ [] := by simp [row, joined, List.intercalate]
          rw [hrow] at hfuel ⊢
          obtain ⟨fuel', previous', -, hscan⟩ :=
            scanFrom_written l (Ends.endsBefore (.inl rfl) l) position previous hfuel
          rw [hscan, hnil]
          rfl
      | cons m ls =>
          rw [row_cons] at hfuel ⊢
          obtain ⟨fuel', previous', hfuel', hscan⟩ :=
            scanFrom_written l (Ends.endsBefore (.inr ⟨_, rfl⟩) l) position previous hfuel
          rw [hscan]
          rw [List.length_cons] at hfuel'
          obtain ⟨fuel', rfl⟩ : ∃ n, fuel' = n + 1 := ⟨fuel' - 1, by omega⟩
          rw [scanFrom, if_pos (show isBlank ' ' = true from rfl), ih _ _ (by omega)]
          rfl

/-- A row of written tokens is cut into these tokens where they are written. -/
theorem scan_row_eq (ls : List Lexeme) : scan (row ls) = rowTokens 0 ls :=
  scanFrom_row ls 0 none (Nat.le_refl _)

/-- **A row of written tokens is cut into just these tokens.** -/
theorem scan_row (ls : List Lexeme) : List.Forall₂ Lexeme.IsAt ls (scan (row ls)) := by
  rw [scan_row_eq]
  exact rowTokens_isAt ls 0

end CardTalk.Token
