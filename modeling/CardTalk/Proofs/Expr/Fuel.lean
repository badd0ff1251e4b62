/-
Fuel suffices, and reading without it.

The parser recurses on fuel.  None of its functions lengthens what is left of the tokens,
and each call that does not take a token goes to a function further down a fixed order, so
a bound on the fuel exists: `12 * tokens` and a few more, as `fuelFor` allows.  With that
much the result no longer depends on the fuel (`Settled`).

`readLevel` and the others are the parser with just enough fuel.  They satisfy the equations
of the parser without fuel, and everything about reading is proved from those.
-/
import CardTalk.Expr.Parser

namespace CardTalk

theorem BinaryOp.level_lt (op : BinaryOp) : op.level < 6 := by
  cases op <;> decide

namespace Expr

/-- What reads from a cursor on. -/
abbrev Reading (α : Type) := Cursor → α × Cursor

/-! ### One step of each function -/

section

variable (source : Text)

/-- A level below the tightest: operands of the next one, then a chain. -/
def levelStep (operand : Reading Expr) (chain : Expr → Reading Expr) : Reading Expr := fun c =>
  chain (operand c).1 (operand c).2

/-- A chain goes on with an operator of its level and an operand. -/
def chainStep (level start : Nat) (operand : Reading Expr) (chain : Expr → Reading Expr)
    (left : Expr) : Reading Expr := fun c =>
  match operatorAt? level c with
  | none => (left, c)
  | some (op, c') =>
    let r := operand c'
    chain (.binary op left r.1 (r.2.span source start)) r.2

/-- An operand with its unary operators. -/
def unaryStep (unary operand : Reading Expr) : Reading Expr := fun c =>
  match c.rest with
  | [] => (.literal [], c)
  | token :: rest =>
    if token.isSymbol "-" then
      let r := unary (.past token rest)
      (.unary .negate r.1 (r.2.span source token.start), r.2)
    else if token.isWord "not" && !rest.isEmpty then
      let r := unary (.past token rest)
      (.unary .not r.1 (r.2.span source token.start), r.2)
    else operand c

/-- A parenthesised expression, a call or an atom. -/
def operandStep (expr : Reading Expr) (args : Reading (List Expr)) : Reading Expr := fun c =>
  match c.rest with
  | ⟨.open, _, _, stop⟩ :: rest =>
    let r := expr ⟨rest, stop⟩
    match r.2.rest with
    | ⟨.close, _, _, stop'⟩ :: rest' => (r.1, ⟨rest', stop'⟩)
    | _ => r
  | ⟨.word, name, _, _⟩ :: ⟨.open, _, _, stop⟩ :: rest =>
    match rest with
    | ⟨.close, _, _, stop'⟩ :: rest' => (.call name [], ⟨rest', stop'⟩)
    | _ =>
      let r := args ⟨rest, stop⟩
      (.call name r.1, r.2)
  | _ => parseAtom source c

/-- The arguments of a call up to its closing parenthesis. -/
def argsStep (expr : Reading Expr) (args : Reading (List Expr)) : Reading (List Expr) := fun c =>
  let r := expr c
  match r.2.rest with
  | ⟨.comma, _, _, stop⟩ :: rest =>
    let others := args ⟨rest, stop⟩
    (r.1 :: others.1, others.2)
  | ⟨.close, _, _, stop⟩ :: rest => ([r.1], ⟨rest, stop⟩)
  | _ => ([r.1], r.2)

theorem parseLevel_succ (fuel level : Nat) (c : Cursor) :
    parseLevel source (fuel + 1) level c =
      if level < 6 then
        levelStep (parseLevel source fuel (level + 1))
          (parseChain source fuel level (c.start source)) c
      else parseUnary source fuel c := by
  rw [parseLevel]
  rfl

theorem parseChain_succ (fuel level start : Nat) (left : Expr) (c : Cursor) :
    parseChain source (fuel + 1) level start left c =
      chainStep source level start (parseLevel source fuel (level + 1))
        (parseChain source fuel level start) left c := by
  rw [parseChain]
  rfl

theorem parseUnary_succ (fuel : Nat) (c : Cursor) :
    parseUnary source (fuel + 1) c =
      unaryStep source (parseUnary source fuel) (parseOperand source fuel) c := by
  rw [parseUnary]
  rfl

theorem parseOperand_succ (fuel : Nat) (c : Cursor) :
    parseOperand source (fuel + 1) c =
      operandStep source (parseLevel source fuel 0) (parseArgs source fuel) c := by
  rw [parseOperand]
  rfl

theorem parseArgs_succ (fuel : Nat) (c : Cursor) :
    parseArgs source (fuel + 1) c =
      argsStep (parseLevel source fuel 0) (parseArgs source fuel) c := by
  rw [parseArgs]
  rfl

end

/-! ### Nothing is put back -/

/-- Reading leaves no more tokens than there were. -/
def Shortens {α : Type} (read : Reading α) : Prop := ∀ c, (read c).2.rest.length ≤ c.rest.length

section

variable {source : Text}

theorem operatorAt?_lt {level : Nat} {c c' : Cursor} {op : BinaryOp}
    (h : operatorAt? level c = some (op, c')) : c'.rest.length < c.rest.length := by
  unfold operatorAt? at h
  split at h
  · exact nomatch h
  · rename_i token rest hrest
    rw [hrest]
    split at h
    · exact nomatch h
    · split at h
      · exact nomatch h
      · split at h
        · rename_i second rest'
          split at h <;> obtain ⟨-, rfl⟩ := Prod.mk.inj (Option.some.inj h)
          · exact Nat.lt_of_lt_of_le (Nat.lt_succ_self _) (Nat.le_succ _)
          · exact Nat.lt_succ_self _
        · obtain ⟨-, rfl⟩ := Prod.mk.inj (Option.some.inj h)
          exact Nat.lt_succ_self _

theorem shortens_parseAtom : Shortens (parseAtom source) := by
  intro c
  unfold parseAtom
  split
  · exact Nat.le_refl _
  · rename_i token rest hrest
    rw [hrest]
    split
    · exact Nat.le_of_eq (congrArg List.length hrest)
    · dsimp only
      split <;> simp [Cursor.past] <;> omega

theorem Shortens.levelStep {operand : Reading Expr} {chain : Expr → Reading Expr}
    (hoperand : Shortens operand) (hchain : ∀ left, Shortens (chain left)) :
    Shortens (levelStep operand chain) :=
  fun c => Nat.le_trans (hchain _ _) (hoperand c)

theorem Shortens.chainStep {level start : Nat} {operand : Reading Expr}
    {chain : Expr → Reading Expr} (hoperand : Shortens operand)
    (hchain : ∀ left, Shortens (chain left)) (left : Expr) :
    Shortens (chainStep source level start operand chain left) := by
  intro c
  unfold Expr.chainStep
  split
  · exact Nat.le_refl _
  · rename_i op c' hop
    have hlt := operatorAt?_lt hop
    have hright := hoperand c'
    have hrest := hchain (.binary op left (operand c').1 ((operand c').2.span source start))
      (operand c').2
    dsimp only
    omega

theorem Shortens.unaryStep {unary operand : Reading Expr} (hunary : Shortens unary)
    (hoperand : Shortens operand) : Shortens (unaryStep source unary operand) := by
  intro c
  unfold Expr.unaryStep
  split
  · exact Nat.le_refl _
  · rename_i token rest hrest
    have hrest' : (unary (.past token rest)).2.rest.length ≤ rest.length := hunary _
    rw [hrest, List.length_cons]
    split
    · exact Nat.le_succ_of_le hrest'
    · split
      · exact Nat.le_succ_of_le hrest'
      · have h := hoperand c
        rwa [hrest, List.length_cons] at h

theorem Shortens.operandStep {expr : Reading Expr} {args : Reading (List Expr)}
    (hexpr : Shortens expr) (hargs : Shortens args) :
    Shortens (operandStep source expr args) := by
  intro c
  unfold Expr.operandStep
  split
  · rename_i value start stop rest hrest
    have h := hexpr ⟨rest, stop⟩
    rw [hrest, List.length_cons]
    dsimp only at h ⊢
    split
    · rename_i hclose
      rw [hclose, List.length_cons] at h
      exact Nat.le_trans (Nat.le_of_succ_le h) (Nat.le_succ _)
    · exact Nat.le_succ_of_le h
  · rename_i name _ _ _ _ stop rest hrest
    rw [hrest, List.length_cons, List.length_cons]
    split
    · simp only [List.length_cons]
      omega
    · have h := hargs ⟨rest, stop⟩
      dsimp only at h ⊢
      omega
  · exact shortens_parseAtom c

theorem Shortens.argsStep {expr : Reading Expr} {args : Reading (List Expr)}
    (hexpr : Shortens expr) (hargs : Shortens args) : Shortens (argsStep expr args) := by
  intro c
  have h := hexpr c
  unfold Expr.argsStep
  dsimp only
  split
  · rename_i stop rest hcomma
    have h' := hargs ⟨rest, stop⟩
    rw [hcomma, List.length_cons] at h
    dsimp only at h' ⊢
    omega
  · rename_i hclose
    rw [hclose, List.length_cons] at h
    exact Nat.le_of_succ_le h
  · exact h

/-- No function of the parser puts tokens back, with this much fuel. -/
structure ShortensAll (source : Text) (fuel : Nat) : Prop where
  level : ∀ level, Shortens (parseLevel source fuel level)
  chain : ∀ level start left, Shortens (parseChain source fuel level start left)
  unary : Shortens (parseUnary source fuel)
  operand : Shortens (parseOperand source fuel)
  args : Shortens (parseArgs source fuel)

theorem shortensAll : ∀ fuel, ShortensAll source fuel := by
  intro fuel
  induction fuel with
  | zero =>
      refine ⟨fun level c => ?_, fun level start left c => ?_, fun c => ?_, fun c => ?_,
        fun c => ?_⟩
      · unfold parseLevel
        exact Nat.le_refl _
      · unfold parseChain
        exact Nat.le_refl _
      · unfold parseUnary
        exact Nat.le_refl _
      · unfold parseOperand
        exact Nat.le_refl _
      · unfold parseArgs
        exact Nat.le_refl _
  | succ fuel ih =>
      refine ⟨fun level c => ?_, fun level start left c => ?_, fun c => ?_, fun c => ?_,
        fun c => ?_⟩
      · rw [parseLevel_succ]
        split
        · exact Shortens.levelStep (ih.level _) (ih.chain _ _) c
        · exact ih.unary c
      · rw [parseChain_succ]
        exact Shortens.chainStep (ih.level _) (ih.chain _ _) left c
      · rw [parseUnary_succ]
        exact Shortens.unaryStep ih.unary ih.operand c
      · rw [parseOperand_succ]
        exact Shortens.operandStep (ih.level 0) ih.args c
      · rw [parseArgs_succ]
        exact Shortens.argsStep (ih.level 0) ih.args c

/-! ### Steps that agree -/

theorem levelStep_congr {operand operand' : Reading Expr} {chain chain' : Expr → Reading Expr}
    {c : Cursor} (hoperand : operand c = operand' c)
    (hchain : ∀ left, chain left (operand' c).2 = chain' left (operand' c).2) :
    levelStep operand chain c = levelStep operand' chain' c := by
  rw [levelStep, levelStep, hoperand, hchain]

theorem chainStep_congr {level start : Nat} {operand operand' : Reading Expr}
    {chain chain' : Expr → Reading Expr} {left : Expr} {c : Cursor} (hshort : Shortens operand')
    (hoperand : ∀ c', c'.rest.length < c.rest.length → operand c' = operand' c')
    (hchain : ∀ left c', c'.rest.length < c.rest.length → chain left c' = chain' left c') :
    chainStep source level start operand chain left c =
      chainStep source level start operand' chain' left c := by
  unfold chainStep
  cases hop : operatorAt? level c with
  | none => rfl
  | some r =>
      have hlt := operatorAt?_lt hop
      dsimp only
      rw [hoperand _ hlt]
      exact hchain _ _ (Nat.lt_of_le_of_lt (hshort _) hlt)

theorem unaryStep_congr {unary unary' operand operand' : Reading Expr} {c : Cursor}
    (hunary : ∀ c', c'.rest.length < c.rest.length → unary c' = unary' c')
    (hoperand : operand c = operand' c) :
    unaryStep source unary operand c = unaryStep source unary' operand' c := by
  unfold unaryStep
  cases hrest : c.rest with
  | nil => rfl
  | cons token rest =>
      have hpast : unary (.past token rest) = unary' (.past token rest) :=
        hunary _ (by rw [hrest]; exact Nat.lt_succ_self _)
      dsimp only
      rw [hpast, hoperand]

theorem operandStep_congr {expr expr' : Reading Expr} {args args' : Reading (List Expr)}
    {c : Cursor} (hexpr : ∀ c', c'.rest.length < c.rest.length → expr c' = expr' c')
    (hargs : ∀ c', c'.rest.length < c.rest.length → args c' = args' c') :
    operandStep source expr args c = operandStep source expr' args' c := by
  unfold operandStep
  split
  · rename_i stop rest hrest
    rw [hexpr ⟨rest, stop⟩ (by rw [hrest]; exact Nat.lt_succ_self _)]
  · rename_i stop rest hrest
    have hlt : rest.length < c.rest.length := by
      rw [hrest, List.length_cons, List.length_cons]
      omega
    rw [hargs ⟨rest, stop⟩ hlt]
  · rfl

theorem argsStep_congr {expr expr' : Reading Expr} {args args' : Reading (List Expr)} {c : Cursor}
    (hshort : Shortens expr') (hexpr : expr c = expr' c)
    (hargs : ∀ c', c'.rest.length < c.rest.length → args c' = args' c') :
    argsStep expr args c = argsStep expr' args' c := by
  unfold argsStep
  rw [hexpr]
  dsimp only
  split
  · rename_i stop rest hcomma
    have hle := hshort c
    rw [hcomma, List.length_cons] at hle
    rw [hargs ⟨rest, stop⟩ hle]
  · rfl
  · rfl

/-! ### Fuel suffices -/

/-- How much fuel is enough to read at a level, and for the other functions. -/
def levelFuel (level : Nat) (c : Cursor) : Nat := 12 * c.rest.length + (6 - level) + 3

/-- With enough fuel it does not matter how much. -/
structure Settled (source : Text) (fuel : Nat) : Prop where
  level : ∀ {level c fuel'}, levelFuel level c ≤ fuel → levelFuel level c ≤ fuel' →
    parseLevel source fuel level c = parseLevel source fuel' level c
  chain : ∀ {level start left c fuel'}, 12 * c.rest.length ≤ fuel → 12 * c.rest.length ≤ fuel' →
    parseChain source fuel level start left c = parseChain source fuel' level start left c
  unary : ∀ {c fuel'}, 12 * c.rest.length + 2 ≤ fuel → 12 * c.rest.length + 2 ≤ fuel' →
    parseUnary source fuel c = parseUnary source fuel' c
  operand : ∀ {c fuel'}, 12 * c.rest.length + 1 ≤ fuel → 12 * c.rest.length + 1 ≤ fuel' →
    parseOperand source fuel c = parseOperand source fuel' c
  args : ∀ {c fuel'}, 12 * c.rest.length + 10 ≤ fuel → 12 * c.rest.length + 10 ≤ fuel' →
    parseArgs source fuel c = parseArgs source fuel' c

theorem parseChain_nil {c : Cursor} (h : c.rest = []) (fuel level start : Nat) (left : Expr) :
    parseChain source fuel level start left c = (left, c) := by
  cases fuel with
  | zero => exact parseChain.eq_1 ..
  | succ fuel => rw [parseChain_succ, chainStep, operatorAt?, h]

theorem settled_zero : Settled source 0 := by
  refine ⟨fun h => absurd h (by unfold levelFuel; omega), ?_, fun h => absurd h (by omega),
    fun h => absurd h (by omega), fun h => absurd h (by omega)⟩
  intro level start left c fuel' h _
  have hrest : c.rest = [] := List.eq_nil_of_length_eq_zero (by omega)
  rw [parseChain_nil hrest, parseChain_nil hrest]

theorem Settled.succ {fuel : Nat} (ih : Settled source fuel) : Settled source (fuel + 1) := by
  refine ⟨?_, ?_, ?_, ?_, ?_⟩
  · intro level c fuel' h h'
    obtain ⟨fuel', rfl⟩ : ∃ n, fuel' = n + 1 := ⟨fuel' - 1, by unfold levelFuel at h'; omega⟩
    rw [parseLevel_succ, parseLevel_succ]
    unfold levelFuel at h h'
    split
    · have hoperand :
          parseLevel source fuel (level + 1) c = parseLevel source fuel' (level + 1) c :=
        ih.level (by unfold levelFuel; omega) (by unfold levelFuel; omega)
      have hshort := (@shortensAll source fuel').level (level + 1) c
      exact levelStep_congr hoperand fun left => ih.chain (by omega) (by omega)
    · exact ih.unary (by omega) (by omega)
  · intro level start left c fuel' h h'
    cases fuel' with
    | zero =>
        have hrest : c.rest = [] := List.eq_nil_of_length_eq_zero (by omega)
        rw [parseChain_nil hrest, parseChain_nil hrest]
    | succ fuel' =>
        rw [parseChain_succ, parseChain_succ]
        refine chainStep_congr ((shortensAll fuel').level _) (fun c' hlt => ?_)
          fun left c' hlt => ?_
        · exact ih.level (by unfold levelFuel; omega) (by unfold levelFuel; omega)
        · exact ih.chain (by omega) (by omega)
  · intro c fuel' h h'
    obtain ⟨fuel', rfl⟩ : ∃ n, fuel' = n + 1 := ⟨fuel' - 1, by omega⟩
    rw [parseUnary_succ, parseUnary_succ]
    refine unaryStep_congr (fun c' hlt => ?_) ?_
    · exact ih.unary (by omega) (by omega)
    · exact ih.operand (by omega) (by omega)
  · intro c fuel' h h'
    obtain ⟨fuel', rfl⟩ : ∃ n, fuel' = n + 1 := ⟨fuel' - 1, by omega⟩
    rw [parseOperand_succ, parseOperand_succ]
    refine operandStep_congr (fun c' hlt => ?_) fun c' hlt => ?_
    · exact ih.level (by unfold levelFuel; omega) (by unfold levelFuel; omega)
    · exact ih.args (by omega) (by omega)
  · intro c fuel' h h'
    obtain ⟨fuel', rfl⟩ : ∃ n, fuel' = n + 1 := ⟨fuel' - 1, by omega⟩
    rw [parseArgs_succ, parseArgs_succ]
    refine argsStep_congr ((shortensAll fuel').level 0) ?_ fun c' hlt => ?_
    · exact ih.level (by unfold levelFuel; omega) (by unfold levelFuel; omega)
    · exact ih.args (by omega) (by omega)

theorem settled (fuel : Nat) : Settled source fuel := by
  induction fuel with
  | zero => exact settled_zero
  | succ fuel ih => exact ih.succ

end

/-! ### Reading without fuel -/

section

variable (source : Text)

/-- An expression whose operators bind at least as tightly as `level`. -/
def readLevel (level : Nat) : Reading Expr := fun c =>
  parseLevel source (12 * c.rest.length + 10) level c

/-- The rest of a chain of operators of one level. -/
def readChain (level start : Nat) (left : Expr) : Reading Expr := fun c =>
  parseChain source (12 * c.rest.length + 1) level start left c

/-- An operand with its unary operators. -/
def readUnary : Reading Expr := fun c => parseUnary source (12 * c.rest.length + 2) c

/-- A parenthesised expression, a call or an atom. -/
def readOperand : Reading Expr := fun c => parseOperand source (12 * c.rest.length + 1) c

/-- The arguments of a call. -/
def readArgs : Reading (List Expr) := fun c => parseArgs source (12 * c.rest.length + 10) c

variable {source}

theorem parseLevel_eq {fuel level : Nat} {c : Cursor} (h : levelFuel level c ≤ fuel) :
    parseLevel source fuel level c = readLevel source level c :=
  (settled fuel).level h (by unfold levelFuel; omega)

theorem parseChain_eq {fuel level start : Nat} {left : Expr} {c : Cursor}
    (h : 12 * c.rest.length ≤ fuel) :
    parseChain source fuel level start left c = readChain source level start left c :=
  (settled fuel).chain h (Nat.le_succ _)

theorem parseUnary_eq {fuel : Nat} {c : Cursor} (h : 12 * c.rest.length + 2 ≤ fuel) :
    parseUnary source fuel c = readUnary source c := (settled fuel).unary h (Nat.le_refl _)

theorem parseOperand_eq {fuel : Nat} {c : Cursor} (h : 12 * c.rest.length + 1 ≤ fuel) :
    parseOperand source fuel c = readOperand source c := (settled fuel).operand h (Nat.le_refl _)

theorem parseArgs_eq {fuel : Nat} {c : Cursor} (h : 12 * c.rest.length + 10 ≤ fuel) :
    parseArgs source fuel c = readArgs source c := (settled fuel).args h (Nat.le_refl _)

theorem shortens_readLevel (level : Nat) : Shortens (readLevel source level) :=
  fun c => (shortensAll _).level level c

theorem readLevel_eq {level : Nat} (hlevel : level < 6) (c : Cursor) :
    readLevel source level c =
      levelStep (readLevel source (level + 1)) (readChain source level (c.start source)) c := by
  rw [readLevel, parseLevel_succ, if_pos hlevel]
  have hshort := @shortens_readLevel source (level + 1) c
  refine levelStep_congr (parseLevel_eq (by unfold levelFuel; omega)) fun left => ?_
  exact parseChain_eq (by omega)

theorem readLevel_six (c : Cursor) : readLevel source 6 c = readUnary source c := by
  rw [readLevel, parseLevel_succ, if_neg (Nat.lt_irrefl 6)]
  exact parseUnary_eq (by omega)

theorem readChain_eq (level start : Nat) (left : Expr) (c : Cursor) :
    readChain source level start left c =
      chainStep source level start (readLevel source (level + 1)) (readChain source level start)
        left c := by
  rw [readChain, parseChain_succ]
  refine chainStep_congr (shortens_readLevel _) (fun c' hlt => ?_) fun left c' hlt => ?_
  · exact parseLevel_eq (by unfold levelFuel; omega)
  · exact parseChain_eq (by omega)

theorem readUnary_eq (c : Cursor) :
    readUnary source c = unaryStep source (readUnary source) (readOperand source) c := by
  rw [readUnary, parseUnary_succ]
  refine unaryStep_congr (fun c' hlt => parseUnary_eq (by omega)) (parseOperand_eq (by omega))

theorem readOperand_eq (c : Cursor) :
    readOperand source c = operandStep source (readLevel source 0) (readArgs source) c := by
  rw [readOperand, parseOperand_succ]
  refine operandStep_congr (fun c' hlt => ?_) fun c' hlt => parseArgs_eq (by omega)
  exact parseLevel_eq (by unfold levelFuel; omega)

theorem readArgs_eq (c : Cursor) :
    readArgs source c = argsStep (readLevel source 0) (readArgs source) c := by
  rw [readArgs, parseArgs_succ]
  refine argsStep_congr (shortens_readLevel 0) ?_ fun c' hlt => parseArgs_eq (by omega)
  exact parseLevel_eq (by unfold levelFuel; omega)

end

/-- The expression that a text is, read without fuel. -/
theorem parse_eq (source : Text) :
    parse source =
      if (Token.scan source).isEmpty then .literal []
      else
        let r := readLevel source 0 ⟨Token.scan source, 0⟩
        if r.2.rest.isEmpty then r.1 else .atom (Text.trim source) [] := by
  have henough : levelFuel 0 ⟨Token.scan source, 0⟩ ≤ fuelFor (Token.scan source) := by
    unfold levelFuel fuelFor
    dsimp only
    omega
  rw [parse]
  dsimp only
  rw [parseLevel_eq henough]

end Expr

end CardTalk
