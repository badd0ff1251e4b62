/-
Tokens written with any blanks between them, or none.

In a row of tokens (`Token.row`) one space stands between each two.  Here the blanks are free:
any number of them may stand before, between and behind the tokens, and none has to stand
where the next token cannot be taken for more of the one before.  A text so written is cut
into just the tokens that were written (`scan_spaced`), and it stays so written when it is
trimmed (`Spaced.trim`), which is what is done to an expression before it is read.
-/
import CardTalk.Proofs.Expr.Layout

namespace CardTalk.Token

open Text

/-- The text is these tokens with blanks anywhere around them. -/
inductive Spaced : List Lexeme → Text → Prop
  | nil : Spaced [] []
  | blank {c : Char} {ls : List Lexeme} {t : Text} (hc : isBlank c) (h : Spaced ls t) :
      Spaced ls (c :: t)
  | token {l : Lexeme} {ls : List Lexeme} {t : Text} (hl : l.EndsBefore t) (h : Spaced ls t) :
      Spaced (l :: ls) (l.written ++ t)

/-! ### Cutting -/

theorem scanFrom_spaced {ls : List Lexeme} {t : Text} (h : Spaced ls t) :
    ∀ {fuel : Nat} (position : Nat) (previous : Option Char), t.length ≤ fuel →
      List.Forall₂ Lexeme.IsAt ls (scanFrom fuel position previous t) := by
  induction h with
  | nil =>
      intro fuel position previous _
      cases fuel <;> exact .nil
  | blank hc _ ih =>
      intro fuel position previous hfuel
      obtain ⟨fuel, rfl⟩ : ∃ n, fuel = n + 1 := ⟨fuel - 1, by simp at hfuel; omega⟩
      rw [scanFrom, if_pos hc]
      exact ih _ _ (Nat.le_of_succ_le_succ hfuel)
  | @token l ls t hl _ ih =>
      intro fuel position previous hfuel
      obtain ⟨fuel', previous', hfuel', hscan⟩ := scanFrom_written l hl position previous hfuel
      rw [hscan]
      exact .cons ⟨rfl, rfl⟩ (ih _ _ hfuel')

/-- **Tokens are cut as they are written, whatever blanks stand around them.** -/
theorem scan_spaced {ls : List Lexeme} {t : Text} (h : Spaced ls t) :
    List.Forall₂ Lexeme.IsAt ls (scan t) :=
  scanFrom_spaced h 0 none (Nat.le_refl _)

/-! ### Trimming -/

/-- What a token does not go on with may be cut off at its end. -/
theorem Lexeme.EndsBefore.initial {l : Lexeme} {rest rest' : Text} (h : l.EndsBefore rest)
    (hinitial : rest' <+: rest) : l.EndsBefore rest' := by
  have hapart : Apart rest → Apart rest' := by
    intro h c hc
    obtain ⟨after, rfl⟩ := hinitial
    refine h c ?_
    rw [List.head?_append, Option.mem_def.mp hc, Option.some_or]
    rfl
  cases l with
  | number => exact hapart h
  | word => exact hapart h
  | operator symbol _ =>
      intro s hs hsymbol
      exact h s hs (hsymbol.trans ((List.prefix_append_right_inj symbol).mpr hinitial))
  | string => trivial
  | «open» => trivial
  | close => trivial
  | comma => trivial

theorem not_isBlank_of_goesOn {c : Char} (h : goesOn c) : ¬isBlank c := by
  rcases Bool.or_eq_true_iff.mp h with hpart | hquote
  · exact not_isBlank_of_isWordPart hpart
  · rw [eq_of_beq hquote]
    decide

/-- A token ends in no blank. -/
theorem Lexeme.not_isBlank_getLast? (l : Lexeme) : ∀ c ∈ l.written.getLast?, ¬isBlank c := by
  intro c hlast
  have hc : c ∈ l.written := List.mem_of_getLast? hlast
  cases l with
  | string v hv =>
      rw [written, List.getLast?_concat, Option.mem_some_iff] at hlast
      rw [← hlast]
      decide
  | number v hv =>
      have hparts := numberAt_parts v
      rw [hv.whole] at hparts
      exact not_isBlank_of_isWordPart (hparts c hc)
  | word v hv =>
      cases v with
      | nil => exact absurd rfl hv.nonempty
      | cons d u =>
          have hgoes := wordAt_eq (isWordPart_of_wordAt hv.whole) u
          rw [hv.whole] at hgoes
          exact not_isBlank_of_goesOn (List.takeWhile_eq_self_iff.mp hgoes.symm c hc)
  | operator symbol hsymbol =>
      have hall : symbols.all (fun s => s.all fun c => !isBlank c) = true := by decide
      have hno := List.all_eq_true.mp (List.all_eq_true.mp hall symbol hsymbol) c hc
      simpa using hno
  | «open» =>
      obtain rfl := List.mem_singleton.mp hc
      decide
  | close =>
      obtain rfl := List.mem_singleton.mp hc
      decide
  | comma =>
      obtain rfl := List.mem_singleton.mp hc
      decide

/-- Trimming the end goes no further than what ends in no blank. -/
theorem trimEnd_append {t : Text} (ht : ∀ c ∈ t.getLast?, ¬isBlank c) (u : Text) :
    trimEnd (t ++ u) = t ++ trimEnd u := by
  have hkept : t.reverse.dropWhile isBlank = t.reverse := by
    cases hlast : t.reverse with
    | nil => rfl
    | cons c rest =>
        refine List.dropWhile_cons_of_neg (ht c ?_)
        rw [List.getLast?_eq_head?_reverse, hlast]
        rfl
  rw [trimEnd, trimEnd, List.reverse_append, List.dropWhile_append, hkept]
  split
  · rename_i hempty
    rw [List.isEmpty_iff.mp hempty, List.reverse_reverse]
    exact (List.append_nil t).symm
  · rw [List.reverse_append, List.reverse_reverse]

theorem Spaced.trimEnd {ls : List Lexeme} {t : Text} (h : Spaced ls t) :
    Spaced ls (trimEnd t) := by
  induction h with
  | nil => exact .nil
  | @blank c ls t hc _ ih =>
      have hcons : Text.trimEnd (c :: t) = [] ∧ Text.trimEnd t = [] ∨
          Text.trimEnd (c :: t) = c :: Text.trimEnd t := by
        rw [Text.trimEnd, Text.trimEnd, List.reverse_cons, List.dropWhile_append]
        split
        · rename_i hempty
          rw [List.isEmpty_iff.mp hempty, List.dropWhile_cons_of_pos hc]
          exact .inl ⟨rfl, rfl⟩
        · rw [List.reverse_append]
          exact .inr rfl
      rcases hcons with ⟨hall, hrest⟩ | hcons
      · rwa [hall, ← hrest]
      · rw [hcons]
        exact .blank hc ih
  | @token l ls t hl _ ih =>
      have hinitial : Text.trimEnd t <+: t := List.rdropWhile_prefix _ _
      rw [trimEnd_append l.not_isBlank_getLast?]
      exact .token (hl.initial hinitial) ih

theorem Spaced.trimStart {ls : List Lexeme} {t : Text} (h : Spaced ls t) :
    Spaced ls (trimStart t) := by
  induction h with
  | nil => exact .nil
  | blank hc _ ih =>
      rw [Text.trimStart, List.dropWhile_cons_of_pos hc]
      exact ih
  | @token l ls t hl h _ =>
      obtain ⟨c, u, hwritten, hc, -⟩ := lexeme_written l none hl
      have hstart : Text.trimStart (l.written ++ t) = l.written ++ t := by
        rw [hwritten, List.cons_append, Text.trimStart, List.dropWhile_cons_of_neg hc]
      rw [hstart]
      exact .token hl h

/-- **Trimming leaves the tokens.** -/
theorem Spaced.trim {ls : List Lexeme} {t : Text} (h : Spaced ls t) : Spaced ls (trim t) :=
  h.trimStart.trimEnd

end CardTalk.Token
