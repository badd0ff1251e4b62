/-
The tokens tile their text.

`Laid` says how the tokens lie in a text piece by piece; what a reader of spans relies on is said
of the text as a whole, with no front and no rest.  The spans are nonempty, in order and apart, and
what lies outside them is blank (`Tiles`).  What a token holds is what its span shows, less the
quotes of a string (`ReadsFrom`).

The scanner counts its steps down from the length of the text.  A step takes at least one character
(`lexeme_length_pos`), so it never runs out, and more steps would give the same tokens.
-/
import CardTalk.Proofs.Expr.Layout

namespace CardTalk.Token

open Text

/-! ### Spans -/

/-- What the source has in the span of the token. -/
def shown (source : Text) (token : Token) : Text := (source.take token.stop).drop token.start

/-- The spans of the tokens are nonempty, in order and apart, and blanks are all there is outside
them. -/
structure Tiles (source : Text) (tokens : List Token) : Prop where
  nonempty : ∀ token ∈ tokens, token.start < token.stop
  within : ∀ token ∈ tokens, token.stop ≤ source.length
  ordered : tokens.Pairwise fun first second => first.stop ≤ second.start
  blank : ∀ i c, source[i]? = some c →
    (∀ token ∈ tokens, ¬(token.start ≤ i ∧ i < token.stop)) → isBlank c

/-- The value of the token is what its span shows: of a string without its quotes, where only the
end of the source stands for the second one. -/
structure ReadsFrom (source : Text) (token : Token) : Prop where
  verbatim : token.kind ≠ .string → token.value = shown source token
  quoted : token.kind = .string → ∃ q, (q = '"' ∨ q = '\'') ∧ q ∉ token.value ∧
    (shown source token = q :: token.value ++ [q] ∨
      shown source token = q :: token.value ∧ token.stop = source.length)
  word : token.kind = .word → token.value = ['!'] ∨
    ∀ c ∈ token.value, ¬isBlank c ∧ c ≠ '"' ∧ ¬isMark c

/-! ### From pieces to spans -/

/-- A token of a text lies behind a front of it, as a piece between the front and a rest. -/
theorem Laid.exists_piece {position : Nat} {previous : Option Char} {t : Text}
    {tokens : List Token} (h : Laid position previous t tokens) :
    ∀ token ∈ tokens, ∃ front before written rest, t = front ++ written ++ rest ∧
      Piece before rest token.kind token.value written ∧
      token.start = position + front.length ∧ token.stop = token.start + written.length := by
  induction h with
  | nil => exact nofun
  | @blank position previous c rest tokens hc hrest ih =>
      intro token htoken
      obtain ⟨front, before, written, after, rfl, hpiece, hstart, hstop⟩ := ih token htoken
      refine ⟨c :: front, before, written, after, rfl, hpiece, ?_, hstop⟩
      rw [hstart, List.length_cons]
      omega
  | @token position previous kind value written rest tokens hpiece hrest ih =>
      intro token htoken
      rcases List.mem_cons.mp htoken with rfl | htoken
      · exact ⟨[], previous, written, rest, rfl, hpiece, rfl, rfl⟩
      · obtain ⟨front, before, taken, after, rfl, htaken, hstart, hstop⟩ := ih token htoken
        refine ⟨written ++ front, before, taken, after, by simp, htaken, ?_, hstop⟩
        rw [hstart, List.length_append]
        omega

theorem Laid.pairwise {position : Nat} {previous : Option Char} {t : Text} {tokens : List Token}
    (h : Laid position previous t tokens) :
    tokens.Pairwise fun first second => first.stop ≤ second.start := by
  induction h with
  | nil => exact .nil
  | blank _ _ ih => exact ih
  | token _ hrest ih => exact .cons hrest.start_le ih

/-- What no token spans is blank. -/
theorem Laid.isBlank {position : Nat} {previous : Option Char} {t : Text} {tokens : List Token}
    (h : Laid position previous t tokens) {i : Nat} {c : Char} (hc : t[i]? = some c)
    (hout : ∀ token ∈ tokens, ¬(token.start ≤ position + i ∧ position + i < token.stop)) :
    Text.isBlank c := by
  induction h generalizing i with
  | nil => exact nomatch hc
  | @blank position previous d rest tokens hd hrest ih =>
      cases i with
      | zero => exact Option.some.inj hc ▸ hd
      | succ i =>
          refine ih hc fun token htoken => ?_
          rw [Nat.add_assoc, Nat.add_comm 1 i]
          exact hout token htoken
  | @token position previous kind value written rest tokens hpiece hrest ih =>
      obtain ⟨hfirst, hothers⟩ := List.forall_mem_cons.mp hout
      -- the token spans all of its piece, so the position lies behind it
      have hi : written.length ≤ i := by
        by_contra hi
        exact hfirst ⟨Nat.le_add_right _ _, by dsimp only; omega⟩
      rw [List.getElem?_append_right hi] at hc
      refine ih hc fun token htoken => ?_
      rw [Nat.add_assoc, Nat.add_sub_cancel' hi]
      exact hothers token htoken

theorem shown_piece {front written rest : Text} {token : Token}
    (hstart : token.start = front.length) (hstop : token.stop = token.start + written.length) :
    shown (front ++ written ++ rest) token = written := by
  rw [shown, hstop, hstart, ← List.length_append, List.take_left, List.drop_left]

/-- The characters of a word. -/
theorem Piece.word_chars {previous : Option Char} {rest value written : Text}
    (h : Piece previous rest .word value written) :
    value = ['!'] ∨ ∀ c ∈ value, ¬Text.isBlank c ∧ c ≠ '"' ∧ ¬isMark c := by
  have hpart : ∀ {c : Char}, isWordPart c → ¬Text.isBlank c ∧ c ≠ '"' ∧ ¬isMark c := by
    intro c hc
    refine ⟨not_isBlank_of_isWordPart hc, ?_, fun hmark => not_isWordPart_of_isMark hmark hc⟩
    rintro rfl
    exact absurd hc (by decide)
  cases h with
  | word hc hv =>
      refine .inr (List.forall_mem_cons.mpr ⟨hpart hc, fun d hd => ?_⟩)
      rcases hv d hd with hd | rfl
      · exact hpart hd
      · decide
  | mark _ _ _ hword => exact .inl (hword rfl)

theorem Laid.tiles {t : Text} {tokens : List Token} (h : Laid 0 none t tokens) :
    Tiles t tokens where
  nonempty := fun token htoken => by
    obtain ⟨front, before, written, rest, -, hpiece, -, hstop⟩ := h.exists_piece token htoken
    have hpos := List.length_pos_iff.mpr hpiece.ne_nil
    omega
  within := fun token htoken => by
    obtain ⟨front, before, written, rest, rfl, -, hstart, hstop⟩ := h.exists_piece token htoken
    rw [List.length_append, List.length_append]
    omega
  ordered := h.pairwise
  blank := fun i c hc hout => h.isBlank hc (by simpa using hout)

theorem Laid.readsFrom {t : Text} {tokens : List Token} (h : Laid 0 none t tokens) :
    ∀ token ∈ tokens, ReadsFrom t token := by
  intro token htoken
  obtain ⟨front, before, written, rest, rfl, hpiece, hstart, hstop⟩ :=
    h.exists_piece token htoken
  rw [Nat.zero_add] at hstart
  have hshown : shown (front ++ written ++ rest) token = written := shown_piece hstart hstop
  refine ⟨fun hkind => ?_, fun hkind => ?_, fun hkind => (hkind ▸ hpiece).word_chars⟩
  · rw [hshown]
    generalize token.kind = kind, token.value = value at hkind hpiece
    cases hpiece with
    | string | unclosed => exact absurd rfl hkind
    | number | word | mark => rfl
  · rw [hshown]
    rw [hkind] at hpiece
    cases hpiece with
    | @string q v hq hv => exact ⟨q, eq_quote_of_opens hq, hv, .inl rfl⟩
    | @unclosed q v hq hv hrest =>
        refine ⟨q, eq_quote_of_opens hq, hv, .inr ⟨rfl, ?_⟩⟩
        rw [hstop, hstart, hrest, List.append_nil, List.length_append]
    | mark hne => exact absurd rfl hne.1

/-! ### Steps of the scanner -/

/-- Every step takes a character. -/
theorem lexeme_length_pos (previous : Option Char) (c : Char) (rest : Text) :
    0 < (lexeme previous c rest).2.2 := by
  unfold lexeme
  split
  · dsimp only [stringAt]
    split <;> exact Nat.succ_pos _
  split
  · exact Nat.one_pos
  split
  · exact Nat.one_pos
  split
  · exact Nat.one_pos
  split
  · rename_i symbol hsymbol
    have hne : ∀ s ∈ symbols, 0 < s.length := by decide
    exact hne symbol (List.mem_of_find?_eq_some hsymbol)
  dsimp only
  split
  · rename_i hnumber
    exact List.length_pos_iff.mpr (by simpa using (Bool.and_eq_true_iff.mp hnumber).1)
  split
  · exact Nat.one_pos
  · rename_i hword
    exact List.length_pos_iff.mpr (by simpa using hword)

/-- No lexeme is an end. -/
theorem lexeme_kind (previous : Option Char) (c : Char) (rest : Text) :
    (lexeme previous c rest).1 ≠ .ending := by
  unfold lexeme
  grind

/-- More steps than characters change nothing. -/
theorem scanFrom_fuel {fuel : Nat} : ∀ {fuel' position : Nat} {previous : Option Char} {t : Text},
    t.length ≤ fuel → t.length ≤ fuel' →
      scanFrom fuel position previous t = scanFrom fuel' position previous t := by
  induction fuel with
  | zero =>
      intro fuel' position previous t hfuel _
      obtain rfl := List.eq_nil_of_length_eq_zero (Nat.le_zero.mp hfuel)
      cases fuel' <;> rfl
  | succ fuel ih =>
      intro fuel' position previous t hfuel hfuel'
      cases t with
      | nil => cases fuel' <;> rfl
      | cons c rest =>
          obtain ⟨fuel', rfl⟩ := Nat.exists_eq_succ_of_ne_zero (Nat.ne_zero_of_lt hfuel')
          have hpos := lexeme_length_pos previous c rest
          rw [List.length_cons] at hfuel hfuel'
          rw [scanFrom, scanFrom]
          generalize lexeme previous c rest = taken at hpos ⊢
          obtain ⟨kind, value, length⟩ := taken
          dsimp only at hpos ⊢
          split
          · exact ih (by omega) (by omega)
          · refine congrArg (List.cons _) (ih ?_ ?_) <;>
              rw [List.length_drop, List.length_cons] <;> omega

theorem kind_ne_ending {fuel : Nat} : ∀ {position : Nat} {previous : Option Char} {t : Text},
    ∀ token ∈ scanFrom fuel position previous t, token.kind ≠ .ending := by
  induction fuel with
  | zero => exact nofun
  | succ fuel ih =>
      intro position previous t
      cases t with
      | nil => exact nofun
      | cons c rest =>
          rw [scanFrom]
          split
          · exact ih
          · exact List.forall_mem_cons.mpr ⟨lexeme_kind previous c rest, ih⟩

/-- **The tokens tile the text.**  Their spans are nonempty, in order and apart, and every character
outside them is blank; a token's value is what its span shows, of a string without the quotes; and
one token, the last, stands for the end.  The scanner reaches it in as many steps as there are
characters. -/
theorem tokenize_tiles (t : Text) :
    ∃ tokens, tokenize t = tokens ++ [⟨.ending, [], t.length, t.length⟩] ∧
      (∀ fuel, t.length ≤ fuel → scanFrom fuel 0 none t = tokens) ∧
      Tiles t tokens ∧ ∀ token ∈ tokens, ReadsFrom t token ∧ token.kind ≠ .ending :=
  ⟨scan t, rfl, fun _ hfuel => scanFrom_fuel hfuel (Nat.le_refl _), (scan_laid t).tiles,
    fun token htoken => ⟨(scan_laid t).readsFrom token htoken, kind_ne_ending token htoken⟩⟩

end CardTalk.Token
