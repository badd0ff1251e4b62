/-
Names of variables as expressions.

An expression of one word is that word, also if the word is an operator elsewhere: nothing stands
on either side of it (`parse_word`).  Unless it is one of the four words that mean something by
themselves, its value is that of the variable with this name, or the word itself where there is
none (`evaluate_word`).  All that an assignment can give a value to are such words: a name does not
begin with a digit (`IsIdentifier.isWord`).
-/
import CardTalk.Proofs.Expr.Layout
import CardTalk.Proofs.Expr.Literal
import CardTalk.Proofs.Number.Leading
import CardTalk.Proofs.Script.Operand

namespace CardTalk

open Text

/-! ### Names -/

namespace Text

/-- A decimal digit has no other case. -/
theorem fold_of_isDecimal {c : Char} (h : isDecimal c) : fold c = c := by
  have hlower : lowerChar c = c :=
    Number.lowerChar_of_isMark (.inl (by simp [Number.isMark, h]))
  unfold fold
  dsimp only
  split
  · rename_i hascii
    rwa [lowerChar, if_pos hascii] at hlower
  · have hvariants : foldVariants.all (fun v => !isDecimal v.1) = true := by decide +kernel
    have hnone : (foldVariants.find? fun v => v.1 == c) = none := by
      refine List.find?_eq_none.mpr fun v hv heq => ?_
      have hno := List.all_eq_true.mp hvariants v hv
      rw [eq_of_beq heq, h] at hno
      exact Bool.false_ne_true hno
    rw [hlower, hnone]
    rfl

end Text

namespace Command

theorem not_isDecimal_of_startsName {c : Char} (h : startsName c) : ¬isDecimal c := by
  intro hdecimal
  rw [startsName, fold_of_isDecimal hdecimal] at h
  have hletters : ∀ n < 123, Char.ofNat n = '_' ∨ 97 ≤ n → ¬isDecimal (Char.ofNat n) := by
    decide +kernel
  have hpoint : c.toNat < 123 ∧ (c = '_' ∨ 97 ≤ c.toNat) := by
    rcases Bool.or_eq_true_iff.mp h with hletter | hline
    · obtain ⟨hfirst, hlast⟩ := Bool.and_eq_true_iff.mp hletter
      have hle : c.toNat ≤ 122 := of_decide_eq_true hlast
      exact ⟨Nat.lt_succ_of_le hle, .inr (of_decide_eq_true hfirst)⟩
    · obtain rfl := eq_of_beq hline
      exact ⟨by decide, .inl rfl⟩
  have hno := hletters c.toNat hpoint.1
  rw [Char.ofNat_toNat] at hno
  exact hno hpoint.2 hdecimal

variable {name : Text}

/-- A name is one word of an expression. -/
theorem IsIdentifier.isWord (h : IsIdentifier name) : Token.IsWord name where
  nonempty := h.isPart.nonempty
  whole := by
    have hrun : name.takeWhile Token.isWordPart = name :=
      List.takeWhile_eq_self_iff.mpr fun c hc => Token.isWordPart_of_isWord (h.letters c hc)
    unfold Token.wordAt
    rw [hrun, if_neg (by simpa using h.isPart.nonempty), List.drop_length]
    exact List.append_nil name
  noNumber := by
    obtain ⟨c, t, rfl⟩ := List.exists_cons_of_ne_nil h.isPart.nonempty
    have hdigits : (c :: t).takeWhile isDecimal = [] :=
      List.takeWhile_cons_of_neg (not_isDecimal_of_startsName h.start)
    have hpoint : c ≠ '.' := by
      rintro rfl
      exact absurd (h.letters _ List.mem_cons_self) (by decide)
    unfold Token.numberAt
    rw [hdigits]
    dsimp only [List.length_nil, List.drop_zero]
    split
    · rename_i heq
      exact absurd (List.cons.inj heq).1 hpoint
    · exact (List.cons_ne_nil c t).symm

end Command

/-! ### Words as expressions -/

namespace Expr

variable {w : Text}

/-- The only token of an expression of one word. -/
def wordToken (w : Text) : Token := ⟨.word, w, 0, w.length⟩

theorem scan_word (h : Token.IsWord w) : Token.scan w = [wordToken w] := by
  have hrow : Token.row [.word w h] = w := by
    simp [Token.row, joined, List.intercalate, Token.Lexeme.written, Token.Lexeme.value]
  have hscan := Token.scan_row_eq [.word w h]
  rw [hrow] at hscan
  rw [hscan, wordToken]
  simp [Token.rowTokens, Token.Lexeme.token, Token.Lexeme.kind, Token.Lexeme.value,
    Token.Lexeme.written]

/-- A word that stands alone is no operator, not even a `not`. -/
theorem readLevel_word (source : Text) :
    readLevel source 6 ⟨[wordToken w], 0⟩ =
      (.atom ((source.take w.length).drop 0) [wordToken w], ⟨[], w.length⟩) := by
  rw [readLevel_six, readUnary_eq, unaryStep]
  dsimp only
  have hminus : (wordToken w).isSymbol "-" = false := rfl
  rw [hminus, if_neg Bool.false_ne_true, List.isEmpty_nil, Bool.not_true, Bool.and_false,
    if_neg Bool.false_ne_true]
  exact readOperand_eq _

theorem parse_word (h : Token.IsWord w) : parse w = .atom w [wordToken w] := by
  have hzero := readLevel_whole (readLevel_word (w := w) w) rfl (Nat.zero_add 6)
  rw [parse_eq, scan_word h, if_neg (by simp), hzero, List.take_length, List.drop_zero]
  rfl

/-- The words that mean something by themselves. -/
def constantWords : List Text := ["it", "empty", "true", "false"]

theorem special_word (h : lower w ∉ constantWords) : Special.of? [wordToken w] = none := by
  have hforms : Special.forms.all (fun f => f.1.length != 1 || f.1.all (· ∈ constantWords)) =
      true := by decide
  rw [Special.of?, Option.map_eq_none_iff, List.find?_eq_none]
  intro f hf heq
  have hword : f.1 = [lower w] := by
    have hmap : f.1.map some = [some (lower w)] := eq_of_beq heq
    obtain ⟨first, hfirst, heq⟩ := List.map_eq_singleton_iff.mp hmap
    rw [hfirst, Option.some.inj heq]
  have hconstant := List.all_eq_true.mp hforms f hf
  rw [hword] at hconstant
  exact h (by simpa using hconstant)

/-- **The value of a word is that of the variable with this name**, or the word itself. -/
theorem evaluate_word (h : Token.IsWord w) (htrim : trim w = w)
    (hconstant : lower w ∉ constantWords) (view : View) : evaluate view w = .ok ((view.bindings.lookup? w).getD w) := by
  have hproperty : propertyValue? view w [wordToken w] = .ok none := by
    have hform : propertyForm? w [wordToken w] = none := by
      rw [propertyForm?]
      split <;> rfl
    rw [propertyValue?, hform]
    rfl
  rw [evaluate, htrim, parse_word h, eval, evalAtom, List.isEmpty_cons, if_neg Bool.false_ne_true,
    special_word hconstant]
  dsimp only
  rw [hproperty]
  rfl

end Expr

end CardTalk
