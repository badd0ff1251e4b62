/-
Texts between quotes.

A literal is a text between two quotes that does not hold the quote itself.  It is its own
trimmed text, loses its quotes where a name is read, and is an expression of one token, whose
value is what is between the quotes: `evaluate_literal`.  What such an expression of one
operand is read as does not depend on the levels of operators (`parse_operand`).
-/
import CardTalk.Expr.Eval
import CardTalk.Proofs.Expr.Printing

namespace CardTalk

/-! ### Quotes around a text -/

namespace Quote

/-- A text between two quotes. -/
def literal (q : Char) (v : Text) : Text := q :: v ++ [q]

variable {q : Char} {v : Text}

theorem literal_append (rest : Text) : literal q v ++ rest = q :: (v ++ q :: rest) := by
  rw [literal, List.append_assoc]
  rfl

/-- What holds of the quote and of all that is between the quotes holds throughout. -/
theorem forall_literal {P : Char → Prop} (hq : P q) (hv : ∀ c ∈ v, P c) : ∀ c ∈ literal q v, P c :=
  List.forall_mem_append.mpr ⟨List.forall_mem_cons.mpr ⟨hq, hv⟩, List.forall_mem_singleton.mpr hq⟩

/-- What can quote a text, where no word comes before it. -/
theorem opens_of_eq (hq : q = '"' ∨ q = '\'') : opens none q := by
  rcases hq with rfl | rfl <;> rfl

theorem not_isBlank_of_eq (hq : q = '"' ∨ q = '\'') : ¬Text.isBlank q := by
  rcases hq with rfl | rfl <;> decide

theorem trim_literal (hq : q = '"' ∨ q = '\'') : Text.trim (literal q v) = literal q v := by
  refine Text.trim_of_not_isBlank (fun c hc => ?_) fun c hc => ?_
  · exact Option.some.inj hc ▸ not_isBlank_of_eq hq
  · rw [literal, List.getLast?_concat] at hc
    exact Option.some.inj hc ▸ not_isBlank_of_eq hq

/-- Stripping takes the quotes off. -/
theorem strip_literal (hq : q = '"' ∨ q = '\'') : strip (literal q v) = v := by
  have hlast : (v ++ [q]).getLast? = some q := List.getLast?_concat
  rw [strip, trim_literal hq]
  exact (if_pos ⟨hq, hlast⟩).trans (List.dropLast_concat ..)

end Quote

/-! ### Expressions of one operand -/

namespace Expr

/-- An operand that takes all the tokens is read through all the levels. -/
theorem readLevel_whole {source : Text} {c c' : Cursor} {e : Expr}
    (hread : readLevel source 6 c = (e, c')) (hrest : c'.rest = []) :
    ∀ {n level : Nat}, level + n = 6 → readLevel source level c = (e, c') := by
  intro n
  induction n with
  | zero =>
      intro level hlevel
      rw [show level = 6 from hlevel, hread]
  | succ n ih =>
      intro level hlevel
      rw [readLevel_eq (by omega), levelStep, ih (by omega), readChain]
      exact parseChain_nil hrest _ _ _ _

/-- A text whose tokens are one operand is that operand. -/
theorem parse_operand {source : Text} {token : Token} {rest : List Token} {e : Expr}
    {last : Nat} (hscan : Token.scan source = token :: rest)
    (hminus : token.isSymbol "-" = false) (hnot : token.isWord "not" = false)
    (hread : operandStep source (readLevel source 0) (readArgs source) ⟨token :: rest, 0⟩ =
      (e, ⟨[], last⟩)) : parse source = e := by
  have hsix : readLevel source 6 ⟨token :: rest, 0⟩ = (e, ⟨[], last⟩) :=
    (readLevel_operand hminus hnot rest 0).trans hread
  have hzero := readLevel_whole hsix rfl (Nat.zero_add 6)
  rw [parse_eq, hscan, if_neg (by simp), hzero]
  rfl

variable {q : Char} {v : Text}

theorem scan_literal (hq : q = '"' ∨ q = '\'') (hv : q ∉ v) :
    Token.scan (Quote.literal q v) = [⟨.string, v, 0, v.length + 2⟩] := by
  have hlexeme := Token.lexeme_quoted (Quote.opens_of_eq hq) hv []
  have hdrop : (q :: (v ++ [q])).drop (v.length + 2) = [] := by
    refine List.drop_eq_nil_of_le ?_
    simp
  have hnil : ∀ fuel position previous, Token.scanFrom fuel position previous [] = [] := by
    intro fuel position previous
    cases fuel <;> rfl
  have hliteral : Quote.literal q v = q :: (v ++ [q]) := rfl
  rw [Token.scan, hliteral, List.length_cons, Token.scanFrom,
    if_neg (Quote.not_isBlank_of_eq hq), hlexeme]
  dsimp only
  rw [hdrop, hnil, Nat.zero_add]

theorem parse_literal (hq : q = '"' ∨ q = '\'') (hv : q ∉ v) :
    parse (Quote.literal q v) = .literal v :=
  parse_operand (scan_literal hq hv) rfl rfl rfl

/-- **The value of a literal is what is between its quotes.** -/
theorem evaluate_literal (view : View) (hq : q = '"' ∨ q = '\'') (hv : q ∉ v) :
    evaluate view (Quote.literal q v) = .ok v := by
  rw [evaluate, Quote.trim_literal hq, parse_literal hq hv]
  rfl

end Expr

end CardTalk
