/-
Expressions are read back from what is printed.

A `Tree` is an expression without source text.  It is printed with a space between each two
tokens and with parentheses only around operands that bind less tightly than their position
allows.  `matches_parse_print` says that reading the print gives the tree.

What carries the proof is how a printed operand is read at a level.  Followed by nothing
that would go on with it, it is read alone (`ReadsAt`); followed by an operator of the same
level, it is what a chain of that level starts with (`ChainsAt`), and chains are what makes
operators associate to the left.
-/
import CardTalk.Proofs.Expr.Fuel
import CardTalk.Proofs.Expr.Lexing

namespace CardTalk

open Token (Lexeme)

/-! ### Printing -/

/-- A text can be the name of a function: one word, but not the operator. -/
structure Token.IsName (t : Text) : Prop extends IsWord t where
  notOperator : Text.lower t ≠ "not".toList

/-- How an operator is written. -/
def UnaryOp.lexeme : UnaryOp → Lexeme
  | negate => .operator "-" (by decide)
  | not => .word "not" (by decide)

/-- How an operator is written. -/
def BinaryOp.lexemes : BinaryOp → List Lexeme
  | or => [.word "or" (by decide)]
  | and => [.word "and" (by decide)]
  | join => [.operator "&" (by decide)]
  | joinSpaced => [.operator "&&" (by decide)]
  | equal => [.operator "=" (by decide)]
  | unequal => [.operator "<>" (by decide)]
  | unequalBang => [.operator "!=" (by decide)]
  | less => [.operator "<" (by decide)]
  | greater => [.operator ">" (by decide)]
  | atMost => [.operator "<=" (by decide)]
  | atLeast => [.operator ">=" (by decide)]
  | is => [.word "is" (by decide)]
  | isNot => [.word "is" (by decide), .word "not" (by decide)]
  | contains => [.word "contains" (by decide)]
  | add => [.operator "+" (by decide)]
  | subtract => [.operator "-" (by decide)]
  | multiply => [.operator "*" (by decide)]
  | divide => [.operator "/" (by decide)]
  | modulo => [.word "mod" (by decide)]
  | quotient => [.word "div" (by decide)]

namespace Expr

/-- An expression without source text. -/
inductive Tree where
  | text (value : Text) (h : '"' ∉ value)
  | number (numeral : Text) (h : Token.IsNumeral numeral)
  | call (name : Text) (h : Token.IsName name) (args : List Tree)
  | unary (op : UnaryOp) (operand : Tree)
  | binary (op : BinaryOp) (left right : Tree)

/-- Tokens in parentheses if they need them. -/
def enclosed (needed : Prop) [Decidable needed] (ls : List Lexeme) : List Lexeme :=
  if needed then .open :: ls ++ [.close] else ls

/-- Whether tokens begin with the word `not`. -/
def beginsWithNot (ls : List Lexeme) : Bool :=
  ls.head?.any fun l => l.kind == .word && Text.lower l.value == "not".toList

namespace Tree

/-- How tightly the operator of a tree binds. -/
def level : Tree → Nat
  | binary op _ _ => op.level
  | text .. | number .. | call .. | unary .. => 6

mutual

/-- The tokens of a tree. -/
def lexemes : Tree → List Lexeme
  | text value h => [.string value h]
  | number numeral h => [.number numeral h]
  | call name h args => .word name h.toIsWord :: .open :: argLexemes args ++ [.close]
  | unary op operand => op.lexeme :: enclosed (operand.level < 6) operand.lexemes
  | binary op left right =>
    enclosed (left.level < op.level) left.lexemes ++ op.lexemes ++
      enclosed (right.level ≤ op.level ∨ op = .is ∧ beginsWithNot right.lexemes) right.lexemes

/-- The tokens of the arguments of a call. -/
def argLexemes : List Tree → List Lexeme
  | [] => []
  | [arg] => arg.lexemes
  | arg :: next :: others => arg.lexemes ++ .comma :: argLexemes (next :: others)

end

/-- The text of a tree. -/
def print (t : Tree) : Text := Token.row t.lexemes

/-- An expression is the tree, whatever source text it keeps. -/
inductive Matches : Tree → Expr → Prop
  | text {value : Text} {h : '"' ∉ value} : Matches (.text value h) (.literal value)
  | number {numeral : Text} {h : Token.IsNumeral numeral} :
      Matches (.number numeral h) (.literal numeral)
  | call {name : Text} {h : Token.IsName name} {args : List Tree} {args' : List Expr}
      (hargs : List.Forall₂ Matches args args') : Matches (.call name h args) (.call name args')
  | unary {op : UnaryOp} {operand : Tree} {operand' : Expr} {source : Text}
      (hoperand : Matches operand operand') :
      Matches (.unary op operand) (.unary op operand' source)
  | binary {op : BinaryOp} {left right : Tree} {left' right' : Expr} {source : Text}
      (hleft : Matches left left') (hright : Matches right right') :
      Matches (.binary op left right) (.binary op left' right' source)

end Tree

/-! ### Tokens wherever they stand -/

theorem isAt_eq {l : Lexeme} {token : Token} (h : l.IsAt token) :
    token = ⟨l.kind, l.value, token.start, token.stop⟩ := by
  cases token
  obtain ⟨rfl, rfl⟩ := h
  rfl

theorem operatorOf?_isAt {l : Lexeme} {token : Token} (h : l.IsAt token) :
    operatorOf? token = operatorOf? ⟨l.kind, l.value, 0, 0⟩ := by
  rw [isAt_eq h]
  rfl

/-- The parts of a row stand one after the other. -/
theorem isAt_append {ls ms : List Lexeme} {tokens : List Token}
    (h : List.Forall₂ Lexeme.IsAt (ls ++ ms) tokens) :
    ∃ before after, tokens = before ++ after ∧ List.Forall₂ Lexeme.IsAt ls before ∧
      List.Forall₂ Lexeme.IsAt ms after := by
  induction ls generalizing tokens with
  | nil => exact ⟨[], tokens, rfl, .nil, h⟩
  | cons l ls ih =>
      cases h with
      | cons hl h =>
          obtain ⟨before, after, rfl, hbefore, hafter⟩ := ih h
          exact ⟨_ :: before, after, rfl, .cons hl hbefore, hafter⟩

theorem isAt_singleton {l : Lexeme} {tokens : List Token}
    (h : List.Forall₂ Lexeme.IsAt [l] tokens) :
    ∃ start stop, tokens = [⟨l.kind, l.value, start, stop⟩] := by
  cases h with
  | cons hl hnil =>
      cases hnil
      exact ⟨_, _, congrArg (fun token => [token]) (isAt_eq hl)⟩

/-! ### Where reading stops -/

/-- Reading at a level goes no further than these tokens: they go on neither with an atom
nor with an operator that binds as tightly. -/
def Stops (level : Nat) (rest : List Token) : Prop :=
  ∀ token ∈ rest.head?, (inAtom token → isOperatorWord token) ∧
    ∀ op, operatorOf? token = some op → op.level < level

theorem Stops.mono {level level' : Nat} {rest : List Token} (hle : level ≤ level')
    (h : Stops level rest) : Stops level' rest := fun token htoken =>
  ⟨(h token htoken).1, fun op hop => Nat.lt_of_lt_of_le ((h token htoken).2 op hop) hle⟩

theorem stops_nil (level : Nat) : Stops level [] := fun _ h => nomatch h

theorem stops_mark {token : Token} (h : token.kind = .close ∨ token.kind = .comma) (level : Nat)
    (rest : List Token) : Stops level (token :: rest) := by
  intro token' htoken
  obtain rfl := Option.some.inj htoken
  have hkind : token.kind ≠ .word ∧ token.kind ≠ .string ∧ token.kind ≠ .number ∧
      token.kind ≠ .operator := by
    rcases h with h | h <;> rw [h] <;> decide
  refine ⟨by simp [inAtom, hkind], ?_⟩
  simp [operatorOf?, isOperatorWord, operatorWords, Token.isWord, hkind]

/-- The first token of an operator is the operator, or begins it. -/
theorem operatorOf?_lexemes {op : BinaryOp} {l : Lexeme} (h : l ∈ op.lexemes.head?) :
    operatorOf? ⟨l.kind, l.value, 0, 0⟩ = some (if op = .isNot then .is else op) := by
  cases op <;> obtain rfl := Option.some.inj h <;> decide

/-- An operator stops the reading of its left operand. -/
theorem stops_operator {op : BinaryOp} {tokens : List Token}
    (h : List.Forall₂ Lexeme.IsAt op.lexemes tokens) (rest : List Token) :
    Stops (op.level + 1) (tokens ++ rest) := by
  intro token htoken
  have hword : ∀ l ∈ op.lexemes.head?, inAtom ⟨l.kind, l.value, 0, 0⟩ →
      isOperatorWord ⟨l.kind, l.value, 0, 0⟩ := by
    cases op <;> intro l hl <;> obtain rfl := Option.some.inj hl <;> decide
  have hlevel : (if op = .isNot then .is else op).level = op.level := by
    cases op <;> rfl
  cases hop : op.lexemes with
  | nil => cases op <;> exact nomatch hop
  | cons l ls =>
      rw [hop] at h hword
      cases h with
      | cons hl _ =>
          obtain rfl := Option.some.inj htoken
          refine ⟨?_, fun op' hop' => ?_⟩
          · rw [isAt_eq hl]
            exact hword l rfl
          · rw [operatorOf?_isAt hl, operatorOf?_lexemes (by rw [hop]; rfl)] at hop'
            rw [← Option.some.inj hop', hlevel]
            exact Nat.lt_succ_self _

theorem operatorAt?_stops {level : Nat} {rest : List Token} (h : Stops level rest) (last : Nat) :
    operatorAt? level ⟨rest, last⟩ = none := by
  unfold operatorAt?
  split
  · rfl
  · rename_i token rest' hrest
    split
    · rfl
    · rename_i op hop
      obtain rfl : rest = token :: rest' := hrest
      exact if_pos (Nat.ne_of_lt ((h token rfl).2 op hop))

theorem atomTail_stops {level : Nat} {rest : List Token} (h : Stops level rest) :
    atomTail rest = [] := by
  cases rest with
  | nil => rfl
  | cons token rest =>
      refine List.takeWhile_cons_of_neg fun hgoes => ?_
      rw [Bool.and_eq_true, Bool.not_eq_true'] at hgoes
      exact Bool.false_ne_true (hgoes.2.symm.trans ((h token rfl).1 hgoes.1))

/-- An operator of one token is taken unless it is an `is` with a `not` after it. -/
theorem operatorAt?_single {op : BinaryOp} {token : Token} {rest : List Token}
    (hop : operatorOf? token = some op)
    (hnot : op = .is → ∀ second ∈ rest.head?, second.isWord "not".toList = false) (last : Nat) :
    operatorAt? op.level ⟨token :: rest, last⟩ = some (op, .past token rest) := by
  rw [operatorAt?]
  dsimp only
  rw [hop]
  dsimp only
  rw [if_neg (not_not_intro rfl)]
  split
  · rename_i second rest'
    rw [if_neg (Bool.eq_false_iff.mp (hnot rfl second rfl))]
  · rfl

theorem operatorAt?_lexemes {op : BinaryOp} {tokens rest : List Token}
    (h : List.Forall₂ Lexeme.IsAt op.lexemes tokens)
    (hnot : op = .is → ∀ token ∈ rest.head?, token.isWord "not".toList = false) (last : Nat) :
    ∃ last', operatorAt? op.level ⟨tokens ++ rest, last⟩ = some (op, ⟨rest, last'⟩) := by
  by_cases hop : op = .isNot
  · subst hop
    obtain ⟨is, not, rfl, his, hnot⟩ := @isAt_append [_] [_] _ h
    obtain ⟨start, stop, rfl⟩ := isAt_singleton his
    obtain ⟨start', stop', rfl⟩ := isAt_singleton hnot
    exact ⟨stop', rfl⟩
  · obtain ⟨l, hl⟩ : ∃ l, op.lexemes = [l] := by
      cases op <;> first | exact ⟨_, rfl⟩ | exact absurd rfl hop
    rw [hl] at h
    obtain ⟨start, stop, rfl⟩ := isAt_singleton h
    have hsymbol : operatorOf? ⟨l.kind, l.value, start, stop⟩ = some op := by
      rw [operatorOf?_isAt ⟨rfl, rfl⟩, operatorOf?_lexemes (by rw [hl]; rfl), if_neg hop]
    exact ⟨stop, operatorAt?_single hsymbol hnot last⟩

theorem isWord_not_isAt {ls : List Lexeme} {tokens : List Token}
    (h : List.Forall₂ Lexeme.IsAt ls tokens) (hnot : beginsWithNot ls = false) (hls : ls ≠ [])
    (rest : List Token) :
    ∀ token ∈ (tokens ++ rest).head?, token.isWord "not".toList = false := by
  intro token htoken
  cases h with
  | nil => exact absurd rfl hls
  | cons hl _ =>
      obtain rfl := Option.some.inj htoken
      rw [isAt_eq hl]
      exact hnot

/-! ### Reading what is printed -/

/-- At this level these tokens are read as a tree, up to where reading stops. -/
def ReadsAt (source : Text) (t : Tree) (ls : List Lexeme) (level : Nat) : Prop :=
  ∀ (tokens rest : List Token) (last : Nat), List.Forall₂ Lexeme.IsAt ls tokens →
    Stops level rest → ∃ e last', t.Matches e ∧
      readLevel source level ⟨tokens ++ rest, last⟩ = (e, ⟨rest, last'⟩)

/-- At this level these tokens are read as a tree that a chain then goes on with. -/
def ChainsAt (source : Text) (t : Tree) (ls : List Lexeme) (level : Nat) : Prop :=
  ∀ (tokens rest : List Token) (last : Nat), List.Forall₂ Lexeme.IsAt ls tokens →
    Stops (level + 1) rest → ∃ e start last', t.Matches e ∧
      readLevel source level ⟨tokens ++ rest, last⟩ =
        readChain source level start e ⟨rest, last'⟩

section

variable {source : Text} {t : Tree} {ls : List Lexeme} {level : Nat}

/-- A tighter operand is a chain of one. -/
theorem ReadsAt.chains (hlevel : level < 6) (h : ReadsAt source t ls (level + 1)) :
    ChainsAt source t ls level := by
  intro tokens rest last htokens hstops
  obtain ⟨e, last', hmatches, hread⟩ := h _ _ last htokens hstops
  refine ⟨e, Cursor.start source ⟨tokens ++ rest, last⟩, last', hmatches, ?_⟩
  rw [readLevel_eq hlevel, levelStep, hread]

/-- A chain ends where reading stops. -/
theorem ChainsAt.reads (h : ChainsAt source t ls level) : ReadsAt source t ls level := by
  intro tokens rest last htokens hstops
  obtain ⟨e, start, last', hmatches, hread⟩ := h _ _ last htokens (hstops.mono (Nat.le_succ level))
  refine ⟨e, last', hmatches, ?_⟩
  rw [hread, readChain_eq, chainStep, operatorAt?_stops hstops]

theorem ReadsAt.mono {level' : Nat} (hle : level ≤ level') (hlevel : level' ≤ 6)
    (h : ReadsAt source t ls level') : ReadsAt source t ls level := by
  induction hle with
  | refl => exact h
  | step _ ih => exact ih (Nat.le_of_succ_le hlevel) (h.chains hlevel).reads

theorem ChainsAt.mono {level' : Nat} (hle : level ≤ level') (hlevel : level' < 6)
    (h : ChainsAt source t ls level') : ChainsAt source t ls level := by
  rcases Nat.eq_or_lt_of_le hle with rfl | hlt
  · exact h
  · exact (h.reads.mono hlt (Nat.le_of_lt hlevel)).chains (Nat.lt_of_le_of_lt hle hlevel)

/-- A chain goes on with an operator of its level and a tighter operand. -/
theorem ChainsAt.binary {op : BinaryOp} {left right : Tree} {ls ms : List Lexeme}
    (hleft : ChainsAt source left ls op.level) (hright : ReadsAt source right ms (op.level + 1))
    (hnot : op = .is → beginsWithNot ms = false) (hms : ms ≠ []) :
    ChainsAt source (.binary op left right) (ls ++ op.lexemes ++ ms) op.level := by
  intro tokens rest last htokens hstops
  obtain ⟨front, after, rfl, hfront, hafter⟩ := isAt_append htokens
  obtain ⟨before, operator, rfl, hbefore, hoperator⟩ := isAt_append hfront
  obtain ⟨e, start, last₁, hmatches, hread⟩ :=
    hleft _ (operator ++ (after ++ rest)) last hbefore (stops_operator hoperator _)
  obtain ⟨last₂, hop⟩ := operatorAt?_lexemes hoperator
    (fun his => isWord_not_isAt hafter (hnot his) hms rest) last₁
  obtain ⟨e', last₃, hmatches', hread'⟩ := hright _ _ last₂ hafter hstops
  refine ⟨.binary op e e' (Cursor.span source start ⟨rest, last₃⟩), start, last₃,
    .binary hmatches hmatches', ?_⟩
  rw [List.append_assoc, List.append_assoc, hread, readChain_eq, chainStep, hop]
  dsimp only
  rw [hread']

/-! ### Operands -/

/-- An operand that does not begin with an operator has no unary operators. -/
theorem readLevel_operand {token : Token} (hminus : token.isSymbol "-".toList = false)
    (hnot : token.isWord "not".toList = false) (rest : List Token) (last : Nat) :
    readLevel source 6 ⟨token :: rest, last⟩ =
      operandStep source (readLevel source 0) (readArgs source) ⟨token :: rest, last⟩ := by
  rw [readLevel_six, readUnary_eq, unaryStep]
  dsimp only
  rw [hminus, hnot, if_neg Bool.false_ne_true, Bool.false_and, if_neg Bool.false_ne_true]
  exact readOperand_eq _

theorem readsAt_parens (h : ReadsAt source t ls 0) :
    ReadsAt source t (.open :: ls ++ [.close]) 6 := by
  intro tokens rest last htokens hstops
  obtain ⟨front, close, rfl, hfront, hclose⟩ := isAt_append htokens
  obtain ⟨start', stop', rfl⟩ := isAt_singleton hclose
  cases hfront with
  | @cons _ token _ inner hopen hinner =>
      obtain ⟨e, last', hmatches, hread⟩ := h _ (⟨.close, [')'], start', stop'⟩ :: rest)
        token.stop hinner (stops_mark (.inl rfl) _ _)
      refine ⟨e, stop', hmatches, ?_⟩
      rw [isAt_eq hopen, List.append_assoc, List.cons_append, readLevel_operand rfl rfl]
      dsimp only [operandStep, Lexeme.kind, Lexeme.value, List.append_eq, List.cons_append,
        List.nil_append]
      rw [hread]

/-- A string or a number before something that does not go on with an atom. -/
theorem parseAtom_single {token : Token} {rest : List Token} (hatom : inAtom token)
    (hword : token.kind ≠ .word) (hstops : Stops level rest) (last : Nat) :
    parseAtom source ⟨token :: rest, last⟩ = (.literal token.value, .past token rest) := by
  have hkind : (token.kind != .word) = true := bne_iff_ne.mpr hword
  rw [parseAtom]
  dsimp only
  rw [hatom, atomTail_stops hstops, if_neg (by decide), hkind]
  rfl

theorem readsAt_text {value : Text} (h : '"' ∉ value) :
    ReadsAt source (.text value h) [.string value h] 6 := by
  intro tokens rest last htokens hstops
  obtain ⟨start, stop, rfl⟩ := isAt_singleton htokens
  refine ⟨.literal value, stop, .text, ?_⟩
  rw [List.singleton_append, readLevel_operand rfl rfl]
  have hatom : inAtom ⟨.string, value, start, stop⟩ := rfl
  exact parseAtom_single hatom nofun hstops last

theorem readsAt_number {numeral : Text} (h : Token.IsNumeral numeral) :
    ReadsAt source (.number numeral h) [.number numeral h] 6 := by
  intro tokens rest last htokens hstops
  obtain ⟨start, stop, rfl⟩ := isAt_singleton htokens
  refine ⟨.literal numeral, stop, .number, ?_⟩
  rw [List.singleton_append, readLevel_operand rfl rfl]
  have hatom : inAtom ⟨.number, numeral, start, stop⟩ := rfl
  exact parseAtom_single hatom nofun hstops last

/-- A unary operator with something after it is applied to what is read from there. -/
theorem readUnary_operator {op : UnaryOp} {token : Token} (h : op.lexeme.IsAt token)
    {rest : List Token} (hrest : rest ≠ []) (last : Nat) :
    readUnary source ⟨token :: rest, last⟩ =
      (.unary op (readUnary source (.past token rest)).1
        ((readUnary source (.past token rest)).2.span source token.start),
        (readUnary source (.past token rest)).2) := by
  rw [readUnary_eq, unaryStep]
  dsimp only
  cases op with
  | negate =>
      have hminus : token.isSymbol "-".toList = true := by
        rw [isAt_eq h]
        rfl
      rw [if_pos hminus]
  | not =>
      have hminus : token.isSymbol "-".toList = false := by
        rw [isAt_eq h]
        rfl
      have hnot : token.isWord "not".toList = true := by
        rw [isAt_eq h]
        rfl
      have hmore : (!rest.isEmpty) = true := by simpa using hrest
      rw [hminus, hnot, hmore, if_neg Bool.false_ne_true, Bool.and_self, if_pos rfl]

theorem readsAt_unary (op : UnaryOp) (hls : ls ≠ []) (h : ReadsAt source t ls 6) :
    ReadsAt source (.unary op t) (op.lexeme :: ls) 6 := by
  intro tokens rest last htokens hstops
  cases htokens with
  | @cons _ token _ after hop hafter =>
      obtain ⟨e, last', hmatches, hread⟩ := h _ _ token.stop hafter hstops
      have hmore : after ++ rest ≠ [] := by
        cases hafter with
        | nil => exact absurd rfl hls
        | cons _ _ => exact List.cons_ne_nil _ _
      refine ⟨.unary op e (Cursor.span source token.start ⟨rest, last'⟩), last',
        .unary hmatches, ?_⟩
      rw [readLevel_six] at hread ⊢
      rw [List.cons_append, readUnary_operator hop hmore]
      rw [show Cursor.past token (after ++ rest) = ⟨after ++ rest, token.stop⟩ from rfl, hread]

end

/-! ### Arguments -/

/-- Printing a tree begins with a token that is not a closing parenthesis. -/
theorem Tree.lexemes_head (t : Tree) : ∃ l ls, t.lexemes = l :: ls ∧ l.kind ≠ .close := by
  match t with
  | .text value h => exact ⟨.string value h, [], lexemes.eq_1 .., nofun⟩
  | .number numeral h => exact ⟨.number numeral h, [], lexemes.eq_2 .., nofun⟩
  | .call name h args => exact ⟨.word name h.toIsWord, _, lexemes.eq_3 .., nofun⟩
  | .unary op operand =>
      refine ⟨_, _, by rw [lexemes], ?_⟩
      cases op <;> exact nofun
  | .binary op left right =>
      obtain ⟨l, ls, hleft, hl⟩ := left.lexemes_head
      rw [lexemes, enclosed]
      split
      · exact ⟨_, _, rfl, nofun⟩
      · rw [hleft]
        exact ⟨l, _, rfl, hl⟩

theorem Tree.argLexemes_head (arg : Tree) (others : List Tree) :
    ∃ l ls, argLexemes (arg :: others) = l :: ls ∧ l.kind ≠ .close := by
  obtain ⟨l, ls, hlexemes, hl⟩ := arg.lexemes_head
  cases others with
  | nil => exact ⟨l, ls, by rw [argLexemes, hlexemes], hl⟩
  | cons next others => exact ⟨l, _, by rw [argLexemes, hlexemes]; rfl, hl⟩

theorem Tree.lexemes_ne_nil (t : Tree) : t.lexemes ≠ [] := by
  obtain ⟨l, ls, h, -⟩ := t.lexemes_head
  rw [h]
  exact List.cons_ne_nil _ _

section

variable {source : Text}

/-- Arguments are read one by one up to the closing parenthesis. -/
theorem readArgs_argLexemes {args : List Tree} (hargs : args ≠ [])
    (h : ∀ arg ∈ args, ReadsAt source arg arg.lexemes 0) {tokens : List Token}
    (htokens : List.Forall₂ Lexeme.IsAt (Tree.argLexemes args) tokens) (value : Text)
    (start stop : Nat) (rest : List Token) (last : Nat) :
    ∃ es, List.Forall₂ Tree.Matches args es ∧
      readArgs source ⟨tokens ++ ⟨.close, value, start, stop⟩ :: rest, last⟩ =
        (es, ⟨rest, stop⟩) := by
  induction args generalizing tokens last with
  | nil => exact absurd rfl hargs
  | cons arg others ih =>
      have harg := h arg List.mem_cons_self
      cases others with
      | nil =>
          rw [Tree.argLexemes] at htokens
          obtain ⟨e, last', hmatches, hread⟩ := harg _ (⟨.close, value, start, stop⟩ :: rest) last
            htokens (stops_mark (.inl rfl) _ _)
          refine ⟨[e], .cons hmatches .nil, ?_⟩
          rw [readArgs_eq, argsStep, hread]
      | cons next others =>
          rw [Tree.argLexemes] at htokens
          obtain ⟨before, after, rfl, hbefore, hafter⟩ := isAt_append htokens
          cases hafter with
          | @cons _ comma _ after hcomma hafter =>
              obtain ⟨es, hall, hargs'⟩ := ih (List.cons_ne_nil _ _)
                (fun arg' harg' => h arg' (List.mem_cons_of_mem _ harg')) hafter comma.stop
              have hkind : comma.kind = .comma := hcomma.1
              obtain ⟨e, last', hmatches, hread⟩ := harg _
                (comma :: (after ++ ⟨.close, value, start, stop⟩ :: rest)) last hbefore
                (stops_mark (.inr hkind) _ _)
              refine ⟨e :: es, .cons hmatches hall, ?_⟩
              rw [readArgs_eq, argsStep, List.append_assoc, List.cons_append, hread, isAt_eq hcomma]
              dsimp only [Lexeme.kind]
              rw [hargs']

/-- A word before a parenthesis is called with what is read after it. -/
theorem operandStep_call {expr : Reading Expr} {args : Reading (List Expr)} {rest : List Token}
    (hrest : ∀ token ∈ rest.head?, token.kind ≠ .close) (name value : Text)
    (start stop start' stop' last : Nat) :
    operandStep source expr args
        ⟨⟨.word, name, start, stop⟩ :: ⟨.open, value, start', stop'⟩ :: rest, last⟩ =
      (.call name (args ⟨rest, stop'⟩).1, (args ⟨rest, stop'⟩).2) := by
  rw [operandStep]
  dsimp only
  split
  · exact absurd rfl (hrest _ rfl)
  · rfl

theorem readsAt_call {name : Text} (hname : Token.IsName name) {args : List Tree}
    (h : ∀ arg ∈ args, ReadsAt source arg arg.lexemes 0) :
    ReadsAt source (.call name hname args) (Tree.lexemes (.call name hname args)) 6 := by
  intro tokens rest last htokens hstops
  rw [Tree.lexemes] at htokens
  obtain ⟨front, close, rfl, hfront, hclose⟩ := isAt_append htokens
  obtain ⟨start, stop, rfl⟩ := isAt_singleton hclose
  cases hfront with
  | @cons _ word _ _ hword hfront =>
      cases hfront with
      | @cons _ token _ inner hopen hinner =>
          have hnot : word.isWord "not".toList = false := by
            rw [isAt_eq hword]
            exact beq_false_of_ne hname.notOperator
          rw [isAt_eq hopen, List.append_assoc, List.cons_append, List.cons_append]
          rw [readLevel_operand (by rw [isAt_eq hword]; rfl) hnot, isAt_eq hword]
          cases args with
          | nil =>
              rw [Tree.argLexemes] at hinner
              cases hinner
              exact ⟨.call name [], stop, .call .nil, rfl⟩
          | cons arg others =>
              obtain ⟨es, hall, hread⟩ := readArgs_argLexemes (List.cons_ne_nil _ _) h hinner
                [')'] start stop rest token.stop
              refine ⟨.call name es, stop, .call hall, ?_⟩
              obtain ⟨l, ls, hargs, hl⟩ := Tree.argLexemes_head arg others
              rw [hargs] at hinner
              refine (operandStep_call ?_ ..).trans ?_
              · cases hinner with
                | cons hfirst _ =>
                    intro token' htoken'
                    obtain rfl := Option.some.inj htoken'
                    exact fun hclose => hl (hfirst.1.symm.trans hclose)
              · dsimp only [List.singleton_append, Lexeme.kind, Lexeme.value]
                rw [hread]

/-! ### Reading back -/

/-- A tree is read back at every level that its operator allows. -/
structure Tree.Readable (source : Text) (t : Tree) : Prop where
  reads : ∀ {level}, level ≤ t.level → ReadsAt source t t.lexemes level
  chains : ∀ {level}, level < 6 → level ≤ t.level → ChainsAt source t t.lexemes level

theorem Tree.Readable.of_reads {t : Tree} (hlevel : t.level = 6)
    (h : ReadsAt source t t.lexemes 6) : t.Readable source where
  reads hle := h.mono (hlevel ▸ hle) (Nat.le_refl 6)
  chains hlt _ := (h.mono hlt (Nat.le_refl 6)).chains hlt

/-- Where a tree binds tightly enough it is read without parentheses, elsewhere with. -/
theorem Tree.Readable.enclosed {t : Tree} (h : t.Readable source) {needed : Prop}
    [Decidable needed] {level : Nat} (hlevel : level ≤ 6) (hneeded : ¬needed → level ≤ t.level) :
    ReadsAt source t (Expr.enclosed needed t.lexemes) level := by
  rw [Expr.enclosed]
  split
  · exact (readsAt_parens (h.reads (Nat.zero_le _))).mono hlevel (Nat.le_refl 6)
  · rename_i hno
    exact h.reads (hneeded hno)

theorem beginsWithNot_enclosed {needed : Prop} [Decidable needed] {ls : List Lexeme}
    (h : ¬needed → beginsWithNot ls = false) : beginsWithNot (enclosed needed ls) = false := by
  rw [enclosed]
  split
  · rfl
  · rename_i hno
    exact h hno

theorem enclosed_ne_nil {needed : Prop} [Decidable needed] {ls : List Lexeme} (h : ls ≠ []) :
    enclosed needed ls ≠ [] := by
  rw [enclosed]
  split
  · exact List.cons_ne_nil _ _
  · exact h

theorem Tree.Readable.enclosed_chains {t : Tree} (h : t.Readable source) {needed : Prop}
    [Decidable needed] {level : Nat} (hlevel : level < 6) (hneeded : ¬needed → level ≤ t.level) :
    ChainsAt source t (Expr.enclosed needed t.lexemes) level := by
  rw [Expr.enclosed]
  split
  · exact ((readsAt_parens (h.reads (Nat.zero_le _))).mono hlevel (Nat.le_refl 6)).chains hlevel
  · rename_i hno
    exact h.chains hlevel (hneeded hno)

/-- The left operand starts a chain, the right one is read alone. -/
theorem Tree.Readable.binary {op : BinaryOp} {left right : Tree} (hleft : left.Readable source)
    (hright : right.Readable source) : (Tree.binary op left right).Readable source := by
  have hchain :
      ChainsAt source (.binary op left right) (lexemes (.binary op left right)) op.level := by
    rw [lexemes]
    refine (hleft.enclosed_chains op.level_lt Nat.le_of_not_lt).binary
      (hright.enclosed op.level_lt fun hno => ?_) (fun his => ?_)
      (enclosed_ne_nil right.lexemes_ne_nil)
    · exact Nat.lt_of_not_le fun hle => hno (.inl hle)
    · refine beginsWithNot_enclosed fun hno => Bool.eq_false_iff.mpr fun hbegins => ?_
      exact hno (.inr ⟨his, hbegins⟩)
  exact ⟨fun hle => (hchain.mono hle op.level_lt).reads, fun _ hle => hchain.mono hle op.level_lt⟩

/-- Every tree is read back, by induction on it. -/
theorem Tree.readable (source : Text) (t : Tree) : t.Readable source := by
  match t with
  | .text value h => exact .of_reads rfl (readsAt_text h)
  | .number numeral h => exact .of_reads rfl (readsAt_number h)
  | .call name h args =>
      refine .of_reads rfl (readsAt_call h fun arg harg => ?_)
      exact (arg.readable source).reads (Nat.zero_le _)
  | .unary op operand =>
      refine .of_reads rfl ?_
      rw [lexemes]
      refine readsAt_unary op (enclosed_ne_nil operand.lexemes_ne_nil) ?_
      exact (operand.readable source).enclosed (Nat.le_refl 6) Nat.le_of_not_lt
  | .binary op left right => exact (left.readable source).binary (right.readable source)

end

/-- A text is read as the tree that all its tokens are read as. -/
theorem ReadsAt.matches_parse {source : Text} {t : Tree} {ls : List Lexeme}
    (h : ReadsAt source t ls 0) (hls : ls ≠ [])
    (hscan : List.Forall₂ Lexeme.IsAt ls (Token.scan source)) : t.Matches (parse source) := by
  obtain ⟨e, last, hmatches, hread⟩ := h _ [] 0 hscan (stops_nil 0)
  rw [List.append_nil] at hread
  have hsome : (Token.scan source).isEmpty = false := by
    refine Bool.eq_false_iff.mpr fun hempty => hls ?_
    exact List.forall₂_nil_right_iff.mp (List.isEmpty_iff.mp hempty ▸ hscan)
  rw [parse_eq, hsome, if_neg Bool.false_ne_true, hread]
  exact hmatches

/-- **Reading what is printed gives the tree.** -/
theorem Tree.matches_parse_print (t : Tree) : t.Matches (parse t.print) :=
  ((t.readable t.print).reads (Nat.zero_le _)).matches_parse t.lexemes_ne_nil
    (Token.scan_row t.lexemes)

example : (Tree.binary .subtract (.text "a".toList (by decide)) (.binary .subtract
    (.text "b".toList (by decide)) (.unary .not (.text "c".toList (by decide))))).print =
      "\"a\" - ( \"b\" - not \"c\" )".toList := by
  decide +kernel

end Expr

end CardTalk
