/-
Sums, differences and products of whole numbers are exact.

A `Calculation` is made of natural numbers, `+`, `-`, `*` and the unary minus.  It is written
with every operand in parentheses that is not a number (`Calculation.Written`); more
parentheses and any blanks are allowed.  Each step of its evaluation prints a number and the
next one reads it back, and `evaluate_calculation` says that nothing is lost on the way while
all the numbers are small enough to be floating-point numbers: the text that comes out is the
whole number that the calculation is worth.
-/
import CardTalk.Expr.Eval
import CardTalk.Scene.Definition
import CardTalk.Proofs.Expr.Printing
import CardTalk.Proofs.Expr.Spacing
import CardTalk.Proofs.Number.Whole

namespace CardTalk

open Token (Lexeme)

/-- The operations on two whole numbers. -/
inductive Calculation.Operation where
  | add | subtract | multiply

namespace Calculation.Operation

/-- The operator that an operation is written with. -/
def operator : Operation → BinaryOp
  | add => .add
  | subtract => .subtract
  | multiply => .multiply

/-- The whole number that an operation gives. -/
def apply : Operation → ℤ → ℤ → ℤ
  | add, a, b => a + b
  | subtract, a, b => a - b
  | multiply, a, b => a * b

end Calculation.Operation

/-- A calculation with whole numbers. -/
inductive Calculation where
  | natural (n : ℕ)
  | negate (c : Calculation)
  | operation (op : Calculation.Operation) (left right : Calculation)

namespace Calculation

/-- The whole number that a calculation is worth. -/
def value : Calculation → ℤ
  | natural n => n
  | negate c => -c.value
  | operation op left right => op.apply left.value right.value

/-- All the numbers that the calculation comes to are small enough to be exact. -/
def IsExact : Calculation → Prop
  | natural n => Number.IsExact n
  | negate c => c.IsExact ∧ Number.IsExact (negate c).value
  | operation op left right =>
    left.IsExact ∧ right.IsExact ∧ Number.IsExact (operation op left right).value

instance decidableIsExact : (c : Calculation) → Decidable c.IsExact
  | natural n => inferInstanceAs (Decidable (Number.IsExact n))
  | negate c =>
    let _ := decidableIsExact c
    inferInstanceAs (Decidable (c.IsExact ∧ Number.IsExact (negate c).value))
  | operation op left right =>
    let _ := decidableIsExact left
    let _ := decidableIsExact right
    inferInstanceAs (Decidable (left.IsExact ∧ right.IsExact ∧
      Number.IsExact (operation op left right).value))

/-! ### Writing -/

/-- The numeral of a natural number is a number. -/
theorem isNumeral_ofNat (n : ℕ) : Token.IsNumeral (Text.ofNat n) where
  nonempty := Text.ofNat_ne_nil n
  whole := by
    have hdigits : (Text.ofNat n).takeWhile Text.isDecimal = Text.ofNat n :=
      List.takeWhile_eq_self_iff.mpr (Text.isDecimal_of_mem_ofNat n)
    rw [Token.numberAt, hdigits]
    dsimp only
    rw [List.drop_length]

/-- The token of a natural number. -/
def numeral (n : ℕ) : Lexeme := .number (Text.ofNat n) (isNumeral_ofNat n)

/-- The tokens are the calculation, with every operand in parentheses that is no number.
`operand` says whether the calculation may be an operand so. -/
inductive Written : (operand : Bool) → Calculation → List Lexeme → Prop
  | natural (n : ℕ) : Written true (natural n) [numeral n]
  | negate {c : Calculation} {ls : List Lexeme} (h : Written true c ls) :
      Written false (negate c) (UnaryOp.negate.lexeme :: ls)
  | operation {op : Operation} {left right : Calculation} {ls ms : List Lexeme}
      (hleft : Written true left ls) (hright : Written true right ms) :
      Written false (operation op left right) (ls ++ op.operator.lexemes ++ ms)
  | parens {operand : Bool} {c : Calculation} {ls : List Lexeme} (h : Written operand c ls) :
      Written true c (.open :: ls ++ [.close])

/-- The expression that a calculation is. -/
def tree : Calculation → Expr.Tree
  | natural n => .number (Text.ofNat n) (isNumeral_ofNat n)
  | negate c => .unary .negate c.tree
  | operation op left right => .binary op.operator left.tree right.tree

theorem Written.ne_nil {operand : Bool} {c : Calculation} {ls : List Lexeme}
    (h : Written operand c ls) : ls ≠ [] := by
  cases h with
  | natural => exact List.cons_ne_nil _ _
  | negate => exact List.cons_ne_nil _ _
  | operation _ hright => exact List.append_ne_nil_of_right_ne_nil _ hright.ne_nil
  | parens => exact List.cons_ne_nil _ _

/-- What is written is read as the calculation: as an operand where it is written as one. -/
theorem Written.readsAt {operand : Bool} {c : Calculation} {ls : List Lexeme}
    (h : Written operand c ls) (source : Text) :
    Expr.ReadsAt source c.tree ls (if operand then 6 else 0) := by
  induction h with
  | natural n => exact Expr.readsAt_number (isNumeral_ofNat n)
  | negate h ih =>
      exact (Expr.readsAt_unary .negate h.ne_nil ih).mono (Nat.zero_le 6) (Nat.le_refl 6)
  | @operation op left right ls ms hleft hright ihleft ihright =>
      have hlevel : op.operator.level < 6 := op.operator.level_lt
      have hchain : Expr.ChainsAt source left.tree ls op.operator.level :=
        (ihleft.mono hlevel (Nat.le_refl 6)).chains hlevel
      have hoperand : Expr.ReadsAt source right.tree ms (op.operator.level + 1) :=
        ihright.mono hlevel (Nat.le_refl 6)
      have hnot : op.operator = .is → Expr.beginsWithNot ms = false := by
        cases op <;> exact nofun
      have hread := (hchain.binary hoperand hnot hright.ne_nil).reads
      exact hread.mono (Nat.zero_le _) hlevel.le
  | @parens operand c ls h ih =>
      refine Expr.readsAt_parens (ih.mono (Nat.zero_le _) ?_)
      split <;> decide

/-! ### Evaluating -/

theorem applyUnary_negate {n : ℤ} (hn : Number.IsExact n) (hneg : Number.IsExact (-n))
    (prose : Text) : Expr.applyUnary .negate (Text.ofInt n) prose = Text.ofInt (-n) := by
  have hvalue := Number.value?_neg (Number.value?_numberOrZero hn)
  exact Number.text_of_whole (by exact_mod_cast hvalue) hneg

/-- An operation on numerals gives the numeral. -/
theorem applyBinary_operation (op : Operation) {m n : ℤ} (hm : Number.IsExact m)
    (hn : Number.IsExact n) (hresult : Number.IsExact (op.apply m n)) (prose : Text)
    (unresolved : Bool) :
    Expr.applyBinary op.operator (Text.ofInt m) (Text.ofInt n) prose unresolved =
      .ok (Text.ofInt (op.apply m n)) := by
  have hleft := Number.value?_numberOrZero hm
  have hright := Number.value?_numberOrZero hn
  obtain ⟨z, hz⟩ := Number.exists_value? hresult
  cases op with
  | add =>
      have hsum := Number.value?_add hleft hright (by exact_mod_cast hz)
      exact congrArg Except.ok (Number.text_of_whole (by exact_mod_cast hsum) hresult)
  | subtract =>
      have hdifference := Number.value?_sub hleft hright (by exact_mod_cast hz)
      exact congrArg Except.ok (Number.text_of_whole (by exact_mod_cast hdifference) hresult)
  | multiply =>
      have hproduct := Number.value?_mul hleft hright (by exact_mod_cast hz)
      exact congrArg Except.ok (Number.text_of_whole (by exact_mod_cast hproduct) hresult)

theorem IsExact.value {c : Calculation} (h : c.IsExact) : Number.IsExact c.value := by
  cases c with
  | natural => exact h
  | negate => exact h.2
  | operation => exact h.2.2

/-- By induction on the calculation: the texts of the operands are numerals already. -/
theorem eval_of_matches (v : View) {c : Calculation} (hc : c.IsExact) {e : Expr}
    (h : c.tree.Matches e) : e.eval v = .ok (Text.ofInt c.value) := by
  induction c generalizing e with
  | natural n =>
      cases h
      rw [Expr.eval]
      rfl
  | negate c ih =>
      cases h with
      | unary hoperand =>
          rw [Expr.eval, ih hc.1 hoperand]
          exact congrArg Except.ok (applyUnary_negate hc.1.value hc.2 _)
  | operation op left right ihleft ihright =>
      cases h with
      | binary hleft hright =>
          rw [Expr.eval, ihleft hc.1 hleft, ihright hc.2.1 hright]
          exact applyBinary_operation op hc.1.value hc.2.1.value hc.2.2 _ _

/-! ### A text for every calculation -/

/-- The text of a calculation, with all its parentheses. -/
def text : Calculation → Text
  | natural n => Text.ofNat n
  | negate c => "(-" ++ c.text ++ ")"
  | operation op left right =>
    "(" ++ left.text ++ " " ++ op.operator.symbol ++ " " ++ right.text ++ ")"

/-- The signs of whole numbers and of the operations begin no longer symbol. -/
theorem endsBefore_sign {sign : Char} (hsign : sign ∈ ['+', '-', '*'])
    (h : [sign] ∈ Token.symbols) (rest : Text) : (Lexeme.operator [sign] h).EndsBefore rest := by
  intro s hs hinitial
  have hall : Token.symbols.all (fun s => s.length ≤ 1 || s.head?.all fun c =>
      c ∉ ['+', '-', '*']) = true := by decide
  have hshort := List.all_eq_true.mp hall s hs
  cases s with
  | nil => exact Nat.zero_le _
  | cons c u =>
      obtain rfl : c = sign := (List.cons_prefix_cons.mp hinitial).1
      simp only [List.head?_cons, Option.all_some, Bool.or_eq_true, decide_eq_true_eq] at hshort
      exact hshort.resolve_right fun hno => hno hsign

theorem exists_sign (op : Operation) : ∃ sign h, op.operator.symbol = [sign] ∧
    sign ∈ ['+', '-', '*'] ∧ op.operator.lexemes = [Lexeme.operator [sign] h] := by
  cases op with
  | add => exact ⟨'+', by decide, rfl, by decide, rfl⟩
  | subtract => exact ⟨'-', by decide, rfl, by decide, rfl⟩
  | multiply => exact ⟨'*', by decide, rfl, by decide, rfl⟩

theorem apart_cons {c : Char} (hpart : ¬Token.isWordPart c) (hquote : c ≠ '\'') (rest : Text) :
    Token.Apart (c :: rest) := by
  intro d hd
  obtain rfl := Option.some.inj hd
  exact ⟨hpart, hquote⟩

/-- Written before something that no number goes on with. -/
theorem exists_written (c : Calculation) {ms : List Lexeme} {rest : Text}
    (hrest : Token.Apart rest) (hms : Token.Spaced ms rest) :
    ∃ ls, Written true c ls ∧ Token.Spaced (ls ++ ms) (c.text ++ rest) := by
  induction c generalizing ms rest with
  | natural n => exact ⟨_, .natural n, .token hrest hms⟩
  | negate c ih =>
      have hclose : Token.Spaced (.close :: ms) (')' :: rest) := .token trivial hms
      obtain ⟨ls, hls, hspaced⟩ := ih (apart_cons (by decide) (by decide) rest) hclose
      have hminus : Token.Spaced (UnaryOp.negate.lexeme :: (ls ++ .close :: ms))
          ('-' :: (c.text ++ ')' :: rest)) :=
        .token (endsBefore_sign (by decide) _ _) hspaced
      refine ⟨_, .parens (.negate hls), ?_⟩
      have hopen : Token.Spaced (.open :: UnaryOp.negate.lexeme :: (ls ++ .close :: ms))
          ('(' :: '-' :: (c.text ++ ')' :: rest)) := .token trivial hminus
      simpa [text] using hopen
  | operation op left right ihleft ihright =>
      obtain ⟨sign, hsymbol, hwritten, hsign, hlexemes⟩ := exists_sign op
      have hclose : Token.Spaced (.close :: ms) (')' :: rest) := .token trivial hms
      obtain ⟨ls', hls', hright⟩ := ihright (apart_cons (by decide) (by decide) rest) hclose
      have hoperator : Token.Spaced (.operator [sign] hsymbol :: (ls' ++ .close :: ms))
          (sign :: ' ' :: (right.text ++ ')' :: rest)) :=
        .token (endsBefore_sign hsign _ _) (.blank (by decide) hright)
      obtain ⟨ls, hls, hleft⟩ := ihleft (apart_cons (by decide) (by decide) _)
        (.blank (c := ' ') (by decide) hoperator)
      refine ⟨_, .parens (.operation hls hls'), ?_⟩
      have hopen : Token.Spaced (.open :: (ls ++ .operator [sign] hsymbol :: (ls' ++ .close :: ms)))
          ('(' :: (left.text ++ ' ' :: sign :: ' ' :: (right.text ++ ')' :: rest))) :=
        .token trivial hleft
      simpa [text, hlexemes, hwritten] using hopen

/-- The text of a calculation is a way to write it. -/
theorem spaced_text (c : Calculation) : ∃ ls, Written true c ls ∧ Token.Spaced ls c.text := by
  have hend : Token.Apart [] := fun _ h => nomatch h
  obtain ⟨ls, hls, hspaced⟩ := exists_written c hend .nil
  rw [List.append_nil, List.append_nil] at hspaced
  exact ⟨ls, hls, hspaced⟩

end Calculation

/-- **A calculation with whole numbers is exact in any context.**  However it is written with
its operands in parentheses, its value is the numeral of the whole number that it is worth. -/
theorem Expr.evaluate_calculation (v : View) {c : Calculation} (hc : c.IsExact) {operand : Bool}
    {ls : List Lexeme} (hls : c.Written operand ls) {source : Text}
    (hsource : Token.Spaced ls source) : Expr.evaluate v source = .ok (Text.ofInt c.value) := by
  have hread := (hls.readsAt (Text.trim source)).mono (Nat.zero_le _) (by split <;> decide)
  have hmatches := hread.matches_parse hls.ne_nil (Token.scan_spaced hsource.trim)
  exact Calculation.eval_of_matches v hc hmatches

/-- A negative product less a zero with a minus. -/
theorem Expr.evaluate_calculation_signs :
    let v : View :=
      { scene := .assemble (.usual "s") [] [.usual "a" "A"] 0 0
        bindings := { registers := { it := "7", globals := [("12", "1")] }, context := {} }
        surroundings :=
          { draw := fun low _ => low, date := [], time := [], fetch := fun _ => .ok [] } }
    let c : Calculation :=
      .operation .subtract
        (.operation .multiply (.natural 12) (.operation .subtract (.natural 3) (.natural 10)))
        (.negate (.natural 0))
    c.IsExact ∧ c.text = "((12 * (3 - 10)) - (-0))" ∧ Expr.evaluate v c.text = .ok "-84" := by
  intro v c
  have hc : c.IsExact := by decide
  obtain ⟨ls, hls, hspaced⟩ := c.spaced_text
  exact ⟨hc, rfl, (Expr.evaluate_calculation v hc hls hspaced).trans rfl⟩

end CardTalk
