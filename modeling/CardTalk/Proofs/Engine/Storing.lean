/-
Statements that store a value.

There are several ways to put the value of an expression into `it` or into a variable.  Whatever
the expression holds, as long as a statement can be told apart from its operand (`IsOperand`), they
do the same: `get`, `put` and `put … into it` store the value in `it` (`it_stored_alike`), and an
assignment and `put … into` give the variable of that name the value (`variable_stored_alike`).
Where the expression has no value they fail alike and nothing has happened.

For some names this fails (`storing_constants`).  To `put`, and to an expression, `it` is the
register, but to an assignment it is a name like any other, and so are `empty`, `true` and `false`,
which mean the same in an expression whatever they have been given.  And only `put` has variables
whose names begin with a letter that has a mark.
-/
import CardTalk.Proofs.Engine.Looping
import CardTalk.Proofs.Expr.Variable
import CardTalk.Proofs.Variables

namespace CardTalk

namespace Search

variable {α β : Type}

theorem leaves_anyOf (words : List (Text × α)) : (anyOf words).Leaves := by
  intro β t accept b h
  obtain ⟨w, -, hw⟩ := List.exists_of_findSome?_eq_some h
  obtain ⟨_, rest, hrest, hb⟩ := leaves_word w.1 hw
  exact ⟨w.2, rest, hrest, hb⟩

/-- Where blanks have been read, there was one. -/
theorem exists_blank_of_blanks1 {t : Text} {accept : Unit → Text → Option β} {b : β}
    (h : blanks1 β t accept = some b) : ∃ c ∈ t, Text.isBlank c := by
  obtain ⟨_, rest, ⟨passed, hne, hpassed, rfl⟩, -⟩ := ways_blanks1.sound h
  obtain ⟨c, passed, rfl⟩ := List.exists_cons_of_ne_nil hne
  exact ⟨c, List.mem_cons_self, hpassed c List.mem_cons_self⟩

end Search

namespace Handler

open Engine Search Text

/-! ### Containers of one word -/

/-- A container of one word is no field. -/
theorem fieldForm_first?_word {t : Text} (h : ∀ c ∈ t, ¬isBlank c) : fieldForm.first? t = none := by
  refine Option.eq_none_iff_forall_ne_some.mpr fun r hr => ?_
  suffices hblanks : ∃ rest accept, rest <:+ t ∧
      blanks1 (Option Layer × Text) rest accept = some r by
    obtain ⟨rest, accept, hrest, hread⟩ := hblanks
    obtain ⟨c, hc, hblank⟩ := exists_blank_of_blanks1 hread
    exact h c (hrest.subset hc) hblank
  rw [fieldForm_eq] at hr
  rcases optional_cases hr with hlayer | hr
  · have hread : ∃ accept : Layer → Unit → Text → Option (Option Layer × Text),
        Target.layerWord (Option Layer × Text) t (fun layer rest =>
          blanks1 _ rest (accept layer)) = some r := ⟨_, hlayer⟩
    obtain ⟨accept, hread⟩ := hread
    obtain ⟨layer, rest, hrest, hr⟩ := leaves_anyOf _ hread
    exact ⟨rest, accept layer, hrest, hr⟩
  · unfold Search.or at hr
    split at hr
    · rename_i hfield
      obtain ⟨_, rest, hrest, hread⟩ := leaves_word _ hfield
      exact ⟨rest, _, hrest, hread.trans hr⟩
    · obtain ⟨_, rest, hrest, hread⟩ := leaves_word _ hr
      exact ⟨rest, _, hrest, hread⟩

/-! ### Carrying out a statement -/

section

variable {dispatch : Dispatch} {s : Engine × Context} {name value operand statement : Text}
  {command : Command}

/-- What a state is when `it` has been given a value. -/
def withIt (value : Text) (s : Engine × Context) : Engine × Context :=
  ({ s.1 with registers := { s.1.registers with it := value } }, s.2)

/-- What a state is when a variable has been given a value. -/
def assigned (name value : Text) (s : Engine × Context) : Engine × Context :=
  let v := Variables.assign ⟨s.1.registers, s.2⟩ name value
  ({ s.1 with registers := v.registers }, v.context)

/-- A statement that stores the value of an operand in a state: it has stored it, or the operand
has no value and nothing has happened. -/
def Stores (dispatch : Dispatch) (statement operand : Text)
    (store : Text → Engine × Context → Engine × Context) (s : Engine × Context) : Prop :=
  execute dispatch statement s =
    match Expr.evaluate (viewOf s) operand with
    | .ok value => .finished (.ok true) (store value s)
    | .error f => .finished (.error f) s

/-- A command stores the value of an operand if it does so with a value in hand. -/
theorem stores_of_perform {store : Text → Engine × Context → Engine × Context}
    {next : Text → Handler Unit} (hstatement : Command.ofStatement? statement = some command)
    (hperform : perform dispatch command s = (evaluate operand s).bind next)
    (hnext : ∀ value, next value s = .finished (.ok ()) (store value s)) :
    Stores dispatch statement operand store s := by
  have hexecute : execute dispatch statement s =
      (perform dispatch command s).bind fun _ => pure true := by
    rw [execute, hstatement]
    rfl
  have hevaluate : evaluate operand s = .finished (Expr.evaluate (viewOf s) operand) s := rfl
  rw [Stores, hexecute, hperform, hevaluate]
  cases Expr.evaluate (viewOf s) operand with
  | ok value =>
      rw [Run.bind, hnext]
      rfl
  | error f => rfl

/-- Putting a value into a word that is not `it` gives the variable of that name the value. -/
theorem putInto_identifier (hname : Command.IsIdentifier name) (hit : lower name ≠ "it") :
    putInto name value .into s = .finished (.ok ()) (assigned name value s) := by
  have hfield : fieldForm.first? name = none :=
    fieldForm_first?_word fun c hc => not_isBlank_of_isWord (hname.letters c hc)
  have hword : (!name.isEmpty && name.all isWord) = true := by
    have hne := List.isEmpty_eq_false_iff.mpr hname.isPart.nonempty
    rw [hne, List.all_eq_true.mpr hname.letters]
    rfl
  rw [putInto, if_neg hit, hfield]
  dsimp only
  rw [if_pos hword]
  rfl

/-- A name that means nothing else gives the value that the variable has been given. -/
theorem evaluate_assigned (hname : Command.IsIdentifier name)
    (hconstant : lower name ∉ Expr.constantWords) :
    evaluate name (assigned name value s) =
      .finished (.ok value) (assigned name value s) := by
  have hlookup : (viewOf (assigned name value s)).bindings.lookup? name = some value :=
    (Variables.lookup?_assign _ name value name).trans (if_pos rfl)
  have hvalue := Expr.evaluate_word hname.isWord hname.isPart.trimmed hconstant
    (viewOf (assigned name value s))
  rw [hlookup] at hvalue
  exact evaluate_ok hvalue

end

/-! ### The register `it` -/

/-- **The ways to store a value in `it` agree.**  Let an operand begin with no equal sign, and its
first word not be `url`.  Then `get`, `put` and `put … into it` all store its value in `it` and do
nothing else. -/
theorem it_stored_alike (dispatch : Dispatch) (s : Engine × Context) {operand : Text}
    (h : Command.IsOperand operand) (hequal : '=' ∉ operand.head?)
    (hurl : ∀ w ∈ (words operand).head?, ¬Alike w "url") :
    Stores dispatch (("get " : Text) ++ operand) operand withIt s ∧
    Stores dispatch (("put " : Text) ++ operand) operand withIt s ∧
    Stores dispatch (("put " : Text) ++ operand ++ " into it") operand withIt s := by
  have hit : Script.IsPart "it" := by decide
  refine ⟨?_, ?_, ?_⟩
  · exact stores_of_perform (h.ofStatement?_get hequal hurl) rfl fun _ => rfl
  · exact stores_of_perform (h.ofStatement?_put hequal) rfl fun _ => rfl
  · have hstatement := h.ofStatement?_putInto hequal hit
    rw [List.append_assoc] at hstatement
    exact stores_of_perform hstatement rfl fun _ => rfl

/-- An operand that holds prepositions where they do not count. -/
def joining : Text := "\"go into \" & upper(\"before\" & it)"

/-- The value of an operand that speaks of `it` is that of before. -/
theorem it_stored_alike_joining :
    let s := withIt " x" (impatient, {})
    Command.IsOperand joining ∧ '=' ∉ joining.head? ∧
      (∀ w ∈ (words joining).head?, ¬Alike w "url") ∧
      Expr.evaluate (viewOf s) joining = .ok "go into BEFORE X" ∧
      ∀ statement ∈ [("get " : Text) ++ joining, ("put " : Text) ++ joining,
          ("put " : Text) ++ joining ++ " into it"],
        (execute (dispatchAt 1) statement s).complete.2 = withIt "go into BEFORE X" s := by
  intro s
  have hoperand : Command.IsOperand joining := by decide +kernel
  have hequal : '=' ∉ joining.head? := by decide +kernel
  have hurl : ∀ w ∈ (words joining).head?, ¬Alike w "url" := by decide +kernel
  have hvalue : Expr.evaluate (viewOf s) joining = .ok "go into BEFORE X" := by decide +kernel
  obtain ⟨hget, hput, hputInto⟩ := it_stored_alike (dispatchAt 1) s hoperand hequal hurl
  have hstored {statement : Text} (h : Stores (dispatchAt 1) statement joining withIt s) :
      (execute (dispatchAt 1) statement s).complete.2 = withIt "go into BEFORE X" s := by
    rw [Stores, hvalue] at h
    rw [h]
    rfl
  refine ⟨hoperand, hequal, hurl, hvalue, ?_⟩
  simp only [List.forall_mem_cons]
  exact ⟨hstored hget, hstored hput, hstored hputInto, nofun⟩

/-! ### Variables -/

/-- **An assignment and `put … into` agree, and the value is read back.**  For a name other than
`it`, and an operand that begins with no equal sign, both statements give the variable of that name
the value of the operand and do nothing else.  The variable is changed alone, and unless its name
is a constant word, evaluating the name then gives the value. -/
theorem variable_stored_alike (dispatch : Dispatch) (s : Engine × Context) {name operand : Text}
    (hname : Command.IsIdentifier name) (hit : lower name ≠ "it")
    (h : Command.IsOperand operand) (hequal : '=' ∉ operand.head?) :
    Stores dispatch (name ++ " = " ++ operand) operand (assigned name) s ∧
    Stores dispatch (("put " : Text) ++ operand ++ " into " ++ name) operand (assigned name) s ∧
    (lower name ∉ Expr.constantWords → ∀ value,
      evaluate name (assigned name value s) =
        .finished (.ok value) (assigned name value s)) ∧
    ∀ value other, lower other ≠ lower name →
      (viewOf (assigned name value s)).bindings.lookup? other =
        (viewOf s).bindings.lookup? other := by
  refine ⟨?_, ?_, fun hconstant value => evaluate_assigned hname hconstant,
    fun value other hother => ?_⟩
  · exact stores_of_perform (h.ofStatement?_assign hname) rfl fun _ => rfl
  · exact stores_of_perform (h.ofStatement?_putInto hequal hname.isPart) rfl fun _ =>
      putInto_identifier hname hit
  · exact (Variables.lookup?_assign _ name value other).trans (if_neg hother)

/-- A verb and an operator can be names of variables. -/
theorem variable_stored_alike_verbs :
    let s := withIt " x" (impatient, {})
    ∀ name ∈ [("put" : Text), ("Not" : Text)],
      (Command.IsIdentifier name ∧ lower name ≠ "it" ∧ Command.IsOperand joining ∧
        '=' ∉ joining.head?) ∧
      (execute (dispatchAt 1) (name ++ " = " ++ joining) s).complete.2 =
        (execute (dispatchAt 1) (("put " : Text) ++ joining ++ " into " ++ name) s).complete.2 ∧
      evaluate name (assigned name "go into BEFORE X" s) =
        .finished (.ok "go into BEFORE X") (assigned name "go into BEFORE X" s) := by
  intro s name hname
  have hidentifier : Command.IsIdentifier name ∧ lower name ≠ "it" ∧
      lower name ∉ Expr.constantWords := by
    revert hname name
    decide +kernel
  obtain ⟨hname, hit, hconstant⟩ := hidentifier
  have hoperand : Command.IsOperand joining := by decide +kernel
  have hequal : '=' ∉ joining.head? := by decide +kernel
  obtain ⟨hassign, hput, hread, -⟩ :=
    variable_stored_alike (dispatchAt 1) s hname hit hoperand hequal
  refine ⟨⟨hname, hit, hoperand, hequal⟩, ?_, hread hconstant _⟩
  rw [Stores] at hassign hput
  rw [hassign, hput]

/-- An assignment to `it` does not change the register, one to `empty` is not read back, and a
letter with a mark begins no assignment. -/
theorem storing_constants :
    let s : Engine × Context := (impatient, {})
    let after (statement : Text) := (execute (dispatchAt 1) statement s).complete.2
    Command.IsIdentifier "it" ∧ Command.IsIdentifier "empty" ∧ Command.IsOperand "5" ∧
      Expr.evaluate (viewOf s) "5" = .ok "5" ∧
      (after "it = 5").1.registers.it = [] ∧ (after "put 5 into it").1.registers.it = "5" ∧
      Expr.evaluate (viewOf (after "it = 5")) "it" = .ok [] ∧
      (after "empty = 5").2.locals = [(("empty" : Text), ("5" : Text))] ∧
      Expr.evaluate (viewOf (after "empty = 5")) "empty" = .ok [] ∧
      (after "é = 5").2.locals = [] ∧
      (after "put 5 into é").2.locals = [(("é" : Text), ("5" : Text))] := by
  decide +kernel

end Handler

end CardTalk
