/-
What a text of plain words comes to.

An operator word in a text of plain words applies to nothing, with one exception: `contains`
compares any left operand but an atom, so also one that was prose itself, as `a mod b`.  Such a
comparison is a truth value, and so is what `and` and `or` make of two truth values or of a missing
right operand.  Everything else that is read has the source text it covers as its value
(`Valued`, `Reassembles`).  So the shape of the tree alone decides whether the text is its own
value, whatever the scene and the variables are: `evaluate_contains`.
-/
import CardTalk.Proofs.Expr.Plain
import CardTalk.Scene.Definition

namespace CardTalk.Expr

open Text

/-! ### Prose and truth values -/

/-- Whether an expression of plain words is prose, and not a truth value.  `contains` is prose
behind an atom only, and a missing right operand counts for `and` and `or` as a truth value. -/
def isProse : Expr → Bool
  | .literal _ => false
  | .binary .contains (.atom _ _) _ _ => true
  | .binary .contains _ _ _ => false
  | .binary .and left right _ => left.isProse || right.isProse
  | .binary .or left right _ => left.isProse || right.isProse
  | _ => true

/-- The value of an expression of plain words that covers a text: this text if it is prose. -/
structure Valued (v : View) (text : Text) (e : Expr) : Prop where
  prose : e.isProse = true → eval v e = .ok text
  judged : e.isProse = false → ∃ b, eval v e = .ok (Value.ofBool b)

/-- A value that is a logical one exactly if the expression is not prose, and no number. -/
def Operand (v : View) (e : Expr) : Prop :=
  ∃ a, eval v e = .ok a ∧ readsAsLogical a = !e.isProse ∧ Number.isNumeral a = false

theorem Valued.operand {v : View} {text : Text} {e : Expr} (h : Valued v text e)
    (htext : readsAsLogical text = false) : Operand v e := by
  cases hprose : e.isProse with
  | true =>
      exact ⟨text, h.prose hprose, by rw [htext, hprose]; rfl, (Bool.or_eq_false_iff.mp htext).2⟩
  | false =>
      obtain ⟨b, hb⟩ := h.judged hprose
      have hlogical : readsAsLogical (Value.ofBool b) = true := by cases b <;> decide
      have hnumeral : Number.isNumeral (Value.ofBool b) = false := by cases b <;> decide
      exact ⟨_, hb, by rw [hlogical, hprose]; rfl, hnumeral⟩

/-- A missing operand. -/
theorem operand_missing (v : View) : Operand v (.literal []) := ⟨[], rfl, by decide, by decide⟩

/-- The operators whose words may be among plain words. -/
def wordOps : List BinaryOp := [.or, .and, .contains, .modulo, .quotient]

theorem isUnresolved_of_not_atom {e : Expr} (h : ∀ text tokens, e ≠ .atom text tokens) (a : Text) :
    isUnresolved e a = false := by
  cases e with
  | atom text tokens => exact absurd rfl (h text tokens)
  | _ => rfl

theorem isProse_contains_of_not_atom {left : Expr} (h : ∀ text tokens, left ≠ .atom text tokens)
    (right : Expr) (text : Text) : (Expr.binary .contains left right text).isProse = false := by
  cases left with
  | atom text tokens => exact absurd rfl (h text tokens)
  | _ => rfl

/-- An operator word between two operands gives the text it stands in, unless it compares or joins
truth values. -/
theorem valued_binary {v : View} {op : BinaryOp} (hop : op ∈ wordOps) {left right : Expr}
    (hleft : Operand v left) (hright : Operand v right)
    (hatom : ∀ text tokens, left = .atom text tokens → eval v left = .ok text) (prose : Text) :
    Valued v prose (.binary op left right prose) := by
  obtain ⟨a, ha, halogical, hanumeral⟩ := hleft
  obtain ⟨b, hb, hblogical, -⟩ := hright
  have heval : ∀ op, eval v (.binary op left right prose) =
      applyBinary op a b prose (isUnresolved left a) := by
    intro op
    rw [eval, ha, hb]
    rfl
  have hlogical : (readsAsLogical a && readsAsLogical b) = !(left.isProse || right.isProse) := by
    rw [halogical, hblogical, Bool.not_or]
  simp only [wordOps, List.mem_cons, List.not_mem_nil, or_false] at hop
  rcases hop with rfl | rfl | rfl | rfl | rfl
  · refine ⟨fun h => ?_, fun h => ⟨isTruthy a || isTruthy b, ?_⟩⟩
    · have h : (left.isProse || right.isProse) = true := h
      simp [heval, applyBinary, hlogical, h]
    · have h : (left.isProse || right.isProse) = false := h
      simp [heval, applyBinary, hlogical, h]
  · refine ⟨fun h => ?_, fun h => ⟨isTruthy a && isTruthy b, ?_⟩⟩
    · have h : (left.isProse || right.isProse) = true := h
      simp [heval, applyBinary, hlogical, h]
    · have h : (left.isProse || right.isProse) = false := h
      simp [heval, applyBinary, hlogical, h]
  · by_cases hshape : ∃ text tokens, left = .atom text tokens
    · obtain ⟨text, tokens, rfl⟩ := hshape
      obtain rfl : text = a := Except.ok.inj ((hatom text tokens rfl).symm.trans ha)
      refine ⟨fun _ => ?_, fun h => nomatch h⟩
      simp [heval, applyBinary, isUnresolved]
    · have hno : ∀ text tokens, left ≠ .atom text tokens :=
        fun text tokens h => hshape ⟨text, tokens, h⟩
      refine ⟨fun h => ?_, fun _ => ⟨Comparison.compare .contains a b, ?_⟩⟩
      · exact absurd (h.symm.trans (isProse_contains_of_not_atom hno right prose)) (by decide)
      · simp [heval, applyBinary, isUnresolved_of_not_atom hno]
  · exact ⟨fun _ => by simp [heval, applyBinary, hanumeral], fun h => nomatch h⟩
  · exact ⟨fun _ => by simp [heval, applyBinary, hanumeral], fun h => nomatch h⟩

/-- Without `contains` a chain that begins with prose is prose. -/
theorem isProse_binary {op : BinaryOp} (hop : op ∈ wordOps) (hcontains : op ≠ .contains)
    {left : Expr} (hleft : left.isProse = true) (right : Expr) (text : Text) :
    (Expr.binary op left right text).isProse = true := by
  simp only [wordOps, List.mem_cons, List.not_mem_nil, or_false] at hop
  rcases hop with rfl | rfl | rfl | rfl | rfl
  · exact Bool.or_eq_true_iff.mpr (.inl hleft)
  · exact Bool.or_eq_true_iff.mpr (.inl hleft)
  · exact absurd rfl hcontains
  · rfl
  · rfl

section

variable {v : View} {omitted : List Text} {source : Text} {first : Token} {rest : List Token}

/-- A plain word is none of the other operators, and `contains` only if that is not left out. -/
theorem operatorOf?_plain (h : PlainToken v omitted source first) {op : BinaryOp}
    (hop : operatorOf? first = some op) :
    op ∈ wordOps ∧ (("contains" : Text) ∈ omitted → op ≠ .contains) := by
  have hkind : (first.kind == .operator) = false := by rw [h.kind]; rfl
  rw [operatorOf?, hkind, if_neg Bool.false_ne_true] at hop
  split at hop
  · rename_i hword
    obtain ⟨w, hw, heq⟩ := List.any_eq_true.mp hword
    have hvalue : lower first.value = w := eq_of_beq (Bool.and_eq_true_iff.mp heq).2
    have hmeaning := hvalue ▸ h.meaningless
    rw [hvalue] at hop
    simp only [operatorWords, List.mem_cons, List.not_mem_nil, or_false] at hw
    rcases hw with rfl | rfl | rfl | rfl | rfl | rfl
    · obtain rfl : BinaryOp.or = op := Option.some.inj hop
      exact ⟨by decide, fun _ => by decide⟩
    · obtain rfl : BinaryOp.and = op := Option.some.inj hop
      exact ⟨by decide, fun _ => by decide⟩
    · exact absurd (by decide) hmeaning
    · obtain rfl : BinaryOp.contains = op := Option.some.inj hop
      exact ⟨by decide, fun hmem => absurd (hvalue ▸ hmem) h.omits⟩
    · obtain rfl : BinaryOp.modulo = op := Option.some.inj hop
      exact ⟨by decide, fun _ => by decide⟩
    · obtain rfl : BinaryOp.quotient = op := Option.some.inj hop
      exact ⟨by decide, fun _ => by decide⟩
  · exact nomatch hop

/-! ### Every node is prose or a truth value -/

/-- What reading from a first word on gives: it takes this word and maybe more, stops at an
operator word that binds less tightly, if at all, and what is read has the source from the first
word up to there as its value, or is a truth value. -/
structure Reassembles (v : View) (omitted : List Text) (source : Text) (bound : Nat)
    (first : Token) (rest : List Token) (r : Expr × Cursor) : Prop where
  goes : Cursor.GoesTo (.past first rest) r.2
  value : Valued v (r.2.span source first.start) r.1
  atom : ∀ text tokens, r.1 = .atom text tokens → text = r.2.span source first.start
  stops : ∀ token ∈ r.2.rest.head?, ∃ op, operatorOf? token = some op ∧ op.level < bound
  /-- Only `contains` makes truth values. -/
  omits : ("contains" : Text) ∈ omitted → r.1.isProse = true

theorem isOperatorWord_level {token : Token} (hkind : token.kind = .word)
    (h : isOperatorWord token) : ∃ op, operatorOf? token = some op ∧ op.level < 6 := by
  have hoperator : (token.kind == .operator) = false := by rw [hkind]; rfl
  obtain ⟨w, hw, heq⟩ := List.any_eq_true.mp h
  have hvalue : lower token.value = w := eq_of_beq (Bool.and_eq_true_iff.mp heq).2
  have hwords : operatorWords.all (fun w => (BinaryOp.ofSymbol? w).isSome) = true := by decide
  obtain ⟨op, hop⟩ := Option.isSome_iff_exists.mp (List.all_eq_true.mp hwords w hw)
  refine ⟨op, ?_, op.level_lt⟩
  rw [operatorOf?, hoperator, if_neg Bool.false_ne_true, if_pos h, hvalue, hop]

theorem inAtom_of_plain (h : PlainToken v omitted source first) : inAtom first = true := by
  simp [inAtom, h.kind]

/-- A plain word opens no parentheses and calls nothing. -/
theorem readOperand_plain (hplain : PlainTokens v omitted source (first :: rest)) (last : Nat) :
    readOperand source ⟨first :: rest, last⟩ = parseAtom source ⟨first :: rest, last⟩ := by
  rw [readOperand_eq, operandStep]
  split
  · rename_i heq
    have hkind := (hplain.token first List.mem_cons_self).kind
    rw [(List.cons.inj heq).1] at hkind
    exact nomatch hkind
  · rename_i heq
    have hmem := (List.cons.inj heq).2 ▸ List.mem_cons_self
    have hkind := (hplain.token _ (List.mem_cons_of_mem first hmem)).kind
    exact nomatch hkind
  · rfl

/-- An atom goes on to the next operator word. -/
theorem reassembles_atom (hplain : PlainTokens v omitted source (first :: rest)) (last : Nat) :
    Reassembles v omitted source 6 first rest (readOperand source ⟨first :: rest, last⟩) ∧
      (readOperand source ⟨first :: rest, last⟩).1.isProse = true := by
  have hfirst := hplain.token first List.mem_cons_self
  have hsplit : rest = atomTail rest ++ rest.drop (atomTail rest).length :=
    (List.prefix_iff_eq_append.mp (List.takeWhile_prefix _)).symm
  have hword : (first.kind != .word) = false := by simp [hfirst.kind]
  rw [readOperand_plain hplain, parseAtom]
  dsimp only
  rw [inAtom_of_plain hfirst, hword, Bool.and_false, if_neg (by decide), if_neg (by decide)]
  refine ⟨⟨⟨atomTail rest, hsplit, ?_⟩, ⟨fun _ => ?_, fun h => nomatch h⟩, fun _ _ h => ?_, ?_,
    fun _ => rfl⟩, rfl⟩
  · cases htail : (atomTail rest).getLast? with
    | none => simp [Cursor.past]
    | some token => simp [Cursor.past]
  · exact evalAtom_plain hfirst _
  · exact (Expr.atom.inj h).1.symm
  · intro token (htoken : token ∈ (rest.drop (atomTail rest).length).head?)
    have hdrop : rest.drop (atomTail rest).length =
        rest.dropWhile fun token => inAtom token && !isOperatorWord token := by
      refine List.append_cancel_left (hsplit.symm.trans ?_)
      exact List.takeWhile_append_dropWhile.symm
    have hmem : token ∈ rest := List.mem_of_mem_drop (List.mem_of_mem_head? htoken)
    have hword := hplain.token token (List.mem_cons_of_mem _ hmem)
    have hno := List.head?_dropWhile_not
      (fun token => inAtom token && !isOperatorWord token) rest
    rw [← hdrop, htoken] at hno
    refine isOperatorWord_level hword.kind ?_
    simpa [inAtom_of_plain hword] using hno

/-- Behind the last token there is nothing to read. -/
theorem readLevel_nil (c : Cursor) (hc : c.rest = []) :
    ∀ {n level : Nat}, level + n = 6 → readLevel source level c = (.literal [], c) := by
  intro n
  induction n with
  | zero =>
      intro level hlevel
      rw [show level = 6 from hlevel, readLevel_six, readUnary_eq, unaryStep, hc]
  | succ n ih =>
      intro level hlevel
      rw [readLevel_eq (by omega), levelStep, ih (by omega), readChain]
      exact parseChain_nil hc _ _ _ _

/-- An operator word of the level that comes next is taken by itself. -/
theorem operatorAt?_plain {c : Cursor} (h : PlainToken v omitted source first)
    (hc : c.rest = first :: rest) (level : Nat) :
    operatorAt? level c = (operatorOf? first).bind fun op =>
      if op.level = level then some (op, .past first rest) else none := by
  unfold operatorAt?
  rw [hc]
  dsimp only
  cases hop : operatorOf? first with
  | none => rfl
  | some op =>
      dsimp only [Option.bind_some]
      by_cases hlevel : op.level = level
      · have hmem := (operatorOf?_plain h hop).1
        rw [if_neg (not_not_intro hlevel), if_pos hlevel]
        simp only [wordOps, List.mem_cons, List.not_mem_nil, or_false] at hmem
        rcases hmem with rfl | rfl | rfl | rfl | rfl <;> cases rest <;> rfl
      · rw [if_pos hlevel, if_neg hlevel]

theorem notNegated (h : PlainToken v omitted source first) : first.isSymbol "-" = false := by
  simp [Token.isSymbol, h.kind]

variable (hsource : ∀ c ∈ source, ¬isDecimal c)

include hsource

/-- An operand with its `not`s is prose. -/
theorem reassembles_unary (hplain : PlainTokens v omitted source (first :: rest)) (last : Nat) :
    Reassembles v omitted source 6 first rest (readUnary source ⟨first :: rest, last⟩) ∧
      (readUnary source ⟨first :: rest, last⟩).1.isProse = true := by
  induction rest generalizing first last with
  | nil =>
      rw [readUnary_eq, unaryStep]
      dsimp only
      rw [notNegated (hplain.token first List.mem_cons_self), if_neg Bool.false_ne_true,
        List.isEmpty_nil, Bool.not_true, Bool.and_false, if_neg Bool.false_ne_true]
      exact reassembles_atom hplain last
  | cons second rest ih =>
      rw [readUnary_eq, unaryStep]
      dsimp only
      rw [notNegated (hplain.token first List.mem_cons_self), if_neg Bool.false_ne_true]
      split
      · obtain ⟨⟨hgoes, hvalue, -, hstops, -⟩, hprose⟩ := ih hplain.tail first.stop
        have hlogical := not_readsAsLogical_span hplain.tail hsource hgoes
        refine ⟨⟨(Cursor.goesTo_past rfl).trans hgoes, ⟨fun _ => ?_, fun h => nomatch h⟩,
          nofun, hstops, fun _ => rfl⟩, rfl⟩
        rw [eval, Cursor.past, hvalue.prose hprose]
        show Except.ok (applyUnary .not _ _) = _
        rw [applyUnary, hlogical, if_neg Bool.false_ne_true]
      · exact reassembles_atom hplain last

/-- A right operand is read from plain words, or missing behind an operator word at the end. -/
theorem operand_right {level n : Nat} (hlevel : level + n = 6)
    (hoperand : ∀ {first : Token} {rest : List Token} (last : Nat),
      PlainTokens v omitted source (first :: rest) →
        Reassembles v omitted source level first rest
          (readLevel source level ⟨first :: rest, last⟩))
    {c : Cursor} (hplain : PlainTokens v omitted source c.rest) :
    Operand v (readLevel source level c).1 ∧ c.GoesTo (readLevel source level c).2 ∧
      ∀ token ∈ (readLevel source level c).2.rest.head?,
        ∃ op, operatorOf? token = some op ∧ op.level < level := by
  obtain ⟨rest, last⟩ := c
  cases rest with
  | nil =>
      rw [readLevel_nil _ rfl hlevel]
      exact ⟨operand_missing v, .refl _, fun token h => absurd h (Option.not_mem_none token)⟩
  | cons first rest =>
      have h := hoperand last hplain
      exact ⟨h.value.operand (not_readsAsLogical_span hplain hsource h.goes),
        (Cursor.goesTo_past rfl).trans h.goes, h.stops⟩

/-- A chain of operators, with a left operand that is prose or a truth value. -/
theorem reassembles_chain {level : Nat}
    (hoperand : ∀ {first : Token} {rest : List Token} (last : Nat),
      PlainTokens v omitted source (first :: rest) →
        Reassembles v omitted source (level + 1) first rest
          (readLevel source (level + 1) ⟨first :: rest, last⟩))
    (hlevel : level < 6) (hplain : PlainTokens v omitted source (first :: rest)) {c : Cursor}
    {left : Expr} (h : Reassembles v omitted source (level + 1) first rest (left, c)) :
    Reassembles v omitted source level first rest (readChain source level first.start left c) := by
  obtain ⟨n, hlevel⟩ : ∃ n, level + 1 + n = 6 := ⟨5 - level, by omega⟩
  induction hlength : c.rest.length using Nat.strongRecOn generalizing c left with
  | ind length ih =>
    subst hlength
    obtain ⟨hgoes, hvalue, hatom, hstops, homits⟩ := h
    have hrest : PlainTokens v omitted source c.rest := hgoes.plainTokens hplain.tail
    rw [readChain_eq, chainStep]
    cases htokens : c.rest with
    | nil =>
        have hnone : operatorAt? level c = none := by rw [operatorAt?, htokens]
        rw [hnone]
        refine ⟨hgoes, hvalue, hatom, fun token htoken => ?_, homits⟩
        rw [htokens] at htoken
        exact absurd htoken (Option.not_mem_none token)
    | cons token tokens =>
        rw [htokens] at hrest
        have hword := hrest.token token List.mem_cons_self
        obtain ⟨op, hop, hbound⟩ := hstops token (by rw [htokens]; rfl)
        obtain ⟨hmem, hcontains⟩ := operatorOf?_plain hword hop
        rw [operatorAt?_plain hword htokens, hop, Option.bind_some]
        by_cases hat : op.level = level
        · rw [if_pos hat]
          obtain ⟨hright, hgoes', hstops'⟩ :=
            operand_right hsource hlevel hoperand (c := .past token tokens) hrest.tail
          have hleft : Operand v left :=
            hvalue.operand (not_readsAsLogical_span hplain hsource hgoes)
          have hunresolved : ∀ text tokens, left = .atom text tokens → eval v left = .ok text := by
            rintro text tokens rfl
            rw [hvalue.prose rfl, hatom text tokens rfl]
          refine ih _ ?_ ⟨(hgoes.trans (Cursor.goesTo_past htokens)).trans hgoes',
            valued_binary hmem hleft hright hunresolved _, fun _ _ h => (by cases h), hstops',
            fun h => isProse_binary hmem (hcontains h) (homits h) _ _⟩ rfl
          rw [htokens]
          exact Nat.lt_succ_of_le hgoes'.length_le
        · rw [if_neg hat]
          refine ⟨hgoes, hvalue, hatom, fun t ht => ?_, homits⟩
          rw [htokens] at ht
          obtain rfl := Option.some.inj ht
          exact ⟨op, hop, Nat.lt_of_le_of_ne (Nat.le_of_lt_succ hbound) hat⟩

theorem reassembles_level {n : Nat} : ∀ {level : Nat}, level + n = 6 →
    ∀ {first : Token} {rest : List Token} (last : Nat),
      PlainTokens v omitted source (first :: rest) →
        Reassembles v omitted source level first rest
          (readLevel source level ⟨first :: rest, last⟩) := by
  induction n with
  | zero =>
      intro level hlevel first rest last hplain
      rw [show level = 6 from hlevel, readLevel_six]
      exact (reassembles_unary hsource hplain last).1
  | succ n ih =>
      intro level hlevel first rest last hplain
      rw [readLevel_eq (by omega), levelStep]
      exact reassembles_chain hsource (ih (by omega)) (by omega) hplain (ih (by omega) last hplain)

end

/-! ### The whole text -/

theorem not_isDecimal_of_plainWords {v : View} {omitted : List Text} {t : Text}
    (h : PlainWords v omitted t) : ∀ c ∈ t, ¬isDecimal c := by
  intro c hc
  rcases h.plain c hc with hblank | hplain
  · exact forall_isBlank (P := fun c => ¬isDecimal c) (by decide +kernel) hblank
  · exact not_isDecimal_of_isPlain hplain

/-- The tree of a trimmed text of plain words covers the whole text. -/
theorem reassembles_parse {v : View} {omitted : List Text} {t : Text} (h : PlainWords v omitted t)
    (htrim : trim t = t) (hne : t ≠ []) :
    Valued v t (parse t) ∧ (("contains" : Text) ∈ omitted → (parse t).isProse = true) := by
  obtain ⟨c, rest, rfl⟩ := List.exists_cons_of_ne_nil hne
  have hlaid := Token.scan_laid (c :: rest)
  obtain ⟨first, tokens, htokens, hstart⟩ := hlaid.start_head (not_isBlank_head htrim)
  obtain ⟨last, hlast, hstop⟩ := hlaid.stop_last hne (not_isBlank_of_mem_getLast? htrim)
  have hplain : PlainTokens v omitted (c :: rest) (Token.scan (c :: rest)) :=
    plainTokens_of_laid hlaid List.length_nil h
  rw [htokens] at hlast hplain
  obtain ⟨⟨taken, htaken, hend⟩, hvalue, -, hstops, homits⟩ :=
    reassembles_level (not_isDecimal_of_plainWords h) (Nat.zero_add 6) 0 hplain
  -- no operator binds less tightly than the first level
  have hnothing : (readLevel (c :: rest) 0 ⟨first :: tokens, 0⟩).2.rest = [] := by
    refine List.head?_eq_none_iff.mp (Option.eq_none_iff_forall_ne_some.mpr fun token ht => ?_)
    obtain ⟨op, -, hlt⟩ := hstops token ht
    exact Nat.not_lt_zero _ hlt
  have hwhole : (readLevel (c :: rest) 0 ⟨first :: tokens, 0⟩).2.last = (c :: rest).length := by
    rw [hnothing, List.append_nil] at htaken
    have htaken : tokens = taken := htaken
    rw [hend, ← htaken, ← Nat.zero_add (c :: rest).length, ← hstop]
    cases htokens' : tokens.getLast? with
    | none =>
        obtain rfl := List.getLast?_eq_none_iff.mp htokens'
        exact congrArg Token.stop (Option.some.inj hlast)
    | some token =>
        rw [List.getLast?_cons, htokens'] at hlast
        exact congrArg Token.stop (Option.some.inj hlast)
  have hparse : parse (c :: rest) = (readLevel (c :: rest) 0 ⟨first :: tokens, 0⟩).1 := by
    rw [parse_eq, htokens, List.isEmpty_cons, if_neg Bool.false_ne_true]
    dsimp only
    rw [hnothing, List.isEmpty_nil, if_pos rfl]
  rw [Cursor.span, hwhole, hstart, List.take_length, List.drop_zero] at hvalue
  rw [hparse]
  exact ⟨hvalue, homits⟩

/-- The words `true` and `false` are left out of plain words, so neither is the whole text. -/
theorem ne_ofBool_of_plainWords {v : View} {omitted : List Text} {t : Text}
    (h : PlainWords v omitted t) (b : Bool) : Value.ofBool b ≠ t := by
  rintro rfl
  cases b with
  | true => exact h.meaningless "true" (by decide) (by decide)
  | false => exact h.meaningless "false" (by decide) (by decide)

theorem PlainWords.trim {v : View} {omitted : List Text} {t : Text} (h : PlainWords v omitted t) :
    PlainWords v omitted (trim t) := by
  refine ⟨fun c hc => h.plain c ?_, fun w hw => h.meaningless w (mem_splitOnP_of_trim hw),
    fun w hw => h.unnamed w (mem_splitOnP_of_trim hw),
    fun w hw => h.omits w (mem_splitOnP_of_trim hw)⟩
  obtain ⟨before, after, -, -, ht⟩ := exists_blanks_around t
  rw [ht]
  exact List.mem_append_left _ (List.mem_append_right _ hc)

/-- A text of plain words, with `contains` among the operator words, is its own value exactly if
the tree that it is read as is prose, and a truth value otherwise. -/
theorem evaluate_contains {v : View} {t : Text} (h : PlainWords v [] t) (hne : trim t ≠ []) :
    (evaluate v t = .ok (trim t) ↔ (parse (trim t)).isProse = true) ∧
      ((parse (trim t)).isProse = false → ∃ b, evaluate v t = .ok (Value.ofBool b)) := by
  obtain ⟨⟨hprose, hjudged⟩, -⟩ := reassembles_parse h.trim (trim_trim t) hne
  refine ⟨⟨fun heval => by_contra fun hno => ?_, hprose⟩, hjudged⟩
  obtain ⟨b, hb⟩ := hjudged (Bool.eq_false_iff.mpr hno)
  exact ne_ofBool_of_plainWords h.trim b (Except.ok.inj (hb.symm.trans heval))

/-- The right side of `and` is a comparison, but the left side is prose. -/
theorem evaluate_contains_boxes :
    let v : View :=
      { scene := .assemble (.usual "s") [] [.usual "a" "A"] 0 0
        bindings := { registers := { it := "7", globals := [("tommy", "1")] }, context := {} }
        surroundings :=
          { draw := fun low _ => low, date := [], time := [], fetch := fun _ => .ok [] } }
    let t : Text := "\tBoxes contains bats  mod balls And not Jerry contains toys "
    PlainWords v [] t ∧ trim t ≠ [] ∧
      evaluate v t = .ok "Boxes contains bats  mod balls And not Jerry contains toys" := by
  intro v t
  have hplain : t.all (fun c => isBlank c || isPlain c) := by decide +kernel
  have hwords : PlainWords v [] t :=
    ⟨fun c hc => Bool.or_eq_true_iff.mp (List.all_eq_true.mp hplain c hc), by decide +kernel,
      by decide +kernel, fun _ _ _ => List.not_mem_nil⟩
  have hne : trim t ≠ [] := by decide +kernel
  have hprose : (parse (trim t)).isProse = true := by decide +kernel
  exact ⟨hwords, hne, ((evaluate_contains hwords hne).1.mpr hprose).trans (by decide +kernel)⟩

/-- What `mod` stands in is prose, but `contains` compares it. -/
theorem evaluate_contains_mod :
    let v : View :=
      { scene := .assemble (.usual "s") [] [.usual "a" "A"] 0 0
        bindings := { registers := { it := [], globals := [] }, context := {} }
        surroundings :=
          { draw := fun low _ => low, date := [], time := [], fetch := fun _ => .ok [] } }
    let t : Text := "Hello mod world contains x"
    PlainWords v [] t ∧ trim t = t ∧ evaluate v t = .ok "false" := by
  intro v t
  have hplain : t.all (fun c => isBlank c || isPlain c) := by decide +kernel
  exact ⟨⟨fun c hc => Bool.or_eq_true_iff.mp (List.all_eq_true.mp hplain c hc), by decide +kernel,
    by decide +kernel, fun _ _ _ => List.not_mem_nil⟩, by decide +kernel, by decide +kernel⟩

end CardTalk.Expr
