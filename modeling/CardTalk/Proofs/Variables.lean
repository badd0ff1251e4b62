/-
Which handler sees which variable.

Handlers that run on one engine take turns at their sleeps, so what they do with variables is mixed
in any order.  They share the global table and nothing else (`Shared`).  Whatever has been done so
far, the names that a handler has declared are those of its own declarations, and the names in the
global table are the ones that it began with and those that some handler has declared: assigning
never adds a name to it (`mem_declared_run`, `has_globals_run`).  So a name that is in neither way
global is a matter of each handler by itself: there it has the value assigned last, and elsewhere
none (`lookup?_run`).

A name that becomes global only after a handler has assigned it stays hidden from that handler by
its local variable.  Which of the two an assignment reaches therefore depends on what all handlers
have done before, but on nothing else than the two tables and the handler's own declarations
(`writesGlobal_iff`).
-/
import CardTalk.Proofs.Table
import CardTalk.Variables
import Mathlib.Data.List.Induction
import Mathlib.Logic.Function.Basic

namespace CardTalk

open Text

namespace Variables

variable (v : Variables) (name value : Text)

/-! ### One handler -/

theorem assign_global (h : v.writesGlobal (lower name)) :
    v.assign name value = { v with
      registers := { v.registers with globals := v.registers.globals.put (lower name) value } } :=
  if_pos h

theorem assign_local (h : ¬v.writesGlobal (lower name)) :
    v.assign name value = { v with
      context := { v.context with locals := v.context.locals.put (lower name) value } } :=
  if_neg h

theorem writesGlobal_iff {key : Text} :
    v.writesGlobal key ↔ key ∈ v.context.declared ∨
      v.registers.globals.has key ∧ ¬v.context.locals.has key := by
  simp [writesGlobal]

/-- A variable that has been assigned has its value, under its name in any case, and no other
variable has another value than before. -/
theorem lookup?_assign (other : Text) :
    (v.assign name value).lookup? other =
      if lower other = lower name then some value else v.lookup? other := by
  by_cases hglobal : v.writesGlobal (lower name)
  · rw [assign_global v name value hglobal]
    by_cases hdeclared : lower other ∈ v.context.declared
    · simp only [lookup?, List.contains_iff_mem.mpr hdeclared, Table.get?_put, ↓reduceIte]
      split
      · rfl
      · rfl
    · -- a global variable that is not declared is written only where no local one hides it
      have hlocal (hname : lower other = lower name) :
          v.context.locals.get? (lower other) = none := by
        have hwrites := hname ▸ v.writesGlobal_iff.mp hglobal
        simpa [Table.has] using (hwrites.resolve_left hdeclared).2
      simp only [lookup?, List.contains_iff_mem, hdeclared, Table.get?_put, ↓reduceIte]
      split
      · next hname => rw [hlocal hname, Option.none_or]
      · rfl
  · have hundeclared : lower name ∉ v.context.declared := fun hdeclared =>
      hglobal (v.writesGlobal_iff.mpr (.inl hdeclared))
    rw [assign_local v name value hglobal]
    by_cases hdeclared : lower other ∈ v.context.declared
    · have hname : lower other ≠ lower name := fun hname => hundeclared (hname ▸ hdeclared)
      simp only [lookup?, List.contains_iff_mem, hdeclared, hname, ↓reduceIte]
    · simp only [lookup?, List.contains_iff_mem, hdeclared, Table.get?_put, ↓reduceIte]
      split
      · rw [Option.some_or]
      · rfl

theorem mem_declared_declare {key : Text} :
    key ∈ (v.declare name).context.declared ↔ key ∈ v.context.declared ∨ key = lower name := by
  unfold declare
  dsimp only
  by_cases h : v.context.declared.contains (lower name)
  · rw [if_pos h]
    refine ⟨.inl, fun hkey => hkey.elim id ?_⟩
    rintro rfl
    exact List.contains_iff_mem.mp h
  · rw [if_neg h, List.mem_append, List.mem_singleton]

theorem has_globals_declare (key : Text) :
    (v.declare name).registers.globals.has key ↔
      v.registers.globals.has key ∨ key = lower name := by
  unfold declare
  dsimp only
  by_cases h : v.registers.globals.has (lower name)
  · rw [if_pos h]
    refine ⟨.inl, fun hkey => hkey.elim id ?_⟩
    rintro rfl
    exact h
  · rw [if_neg h, Table.has_put]
    exact or_comm

theorem declared_assign : (v.assign name value).context.declared = v.context.declared := by
  by_cases h : v.writesGlobal (lower name)
  · rw [assign_global v name value h]
  · rw [assign_local v name value h]

end Variables

/-! ### Many handlers on one engine -/

/-- The registers of an engine and the contexts of all handlers that run on it. -/
structure Shared (ι : Type) where
  registers : Registers
  contexts : ι → Context

namespace Shared

/-- One thing that the handler `i` does with a variable. -/
inductive Access (ι : Type) where
  | declare (i : ι) (name : Text)
  | assign (i : ι) (name value : Text)
  | lookup (i : ι) (name : Text)

variable {ι : Type}

/-- What a handler works with. -/
def view (s : Shared ι) (i : ι) : Variables :=
  ⟨s.registers, s.contexts i⟩

/-- Every handler begins with a context of its own that holds no variable. -/
def start (r : Registers) (origins : ι → Option Text) : Shared ι :=
  ⟨r, fun i => { origin := origins i }⟩

/-- The handler `i` has declared the name, which is given in lower case. -/
def DeclaredBy (accesses : List (Access ι)) (i : ι) (key : Text) : Prop :=
  ∃ name, Access.declare i name ∈ accesses ∧ lower name = key

theorem declaredBy_concat {accesses : List (Access ι)} {access : Access ι} {i : ι} {key : Text} :
    DeclaredBy (accesses ++ [access]) i key ↔
      DeclaredBy accesses i key ∨ ∃ name, access = .declare i name ∧ lower name = key := by
  constructor
  · rintro ⟨name, hmem, hname⟩
    rcases List.mem_append.mp hmem with hmem | hlast
    · exact .inl ⟨name, hmem, hname⟩
    · exact .inr ⟨name, (List.mem_singleton.mp hlast).symm, hname⟩
  · rintro (⟨name, hmem, hname⟩ | ⟨name, rfl, hname⟩)
    · exact ⟨name, List.mem_append_left _ hmem, hname⟩
    · exact ⟨name, List.mem_append_right _ (List.mem_singleton_self _), hname⟩

variable [DecidableEq ι]

/-- The state in which the handler `i` has left its variables as `v` says. -/
def withVariables (s : Shared ι) (i : ι) (v : Variables) : Shared ι :=
  ⟨v.registers, Function.update s.contexts i v.context⟩

/-- The state after an access. -/
def after (s : Shared ι) : Access ι → Shared ι
  | .declare i name => s.withVariables i ((s.view i).declare name)
  | .assign i name value => s.withVariables i ((s.view i).assign name value)
  | .lookup _ _ => s

/-- The state after accesses of any handlers in any order. -/
def run (s : Shared ι) (accesses : List (Access ι)) : Shared ι :=
  accesses.foldl after s

/-- The value that the handler `i` has assigned last to a name, given in lower case. -/
def latest? (i : ι) (key : Text) (accesses : List (Access ι)) : Option Text :=
  accesses.foldl
    (fun old access =>
      match access with
      | .assign j name value => if j = i ∧ lower name = key then some value else old
      | _ => old)
    none

/-- Assigning the name reaches the global table: whatever the value is, it stands there, and no
handler's own variables are touched. -/
def GoesGlobal (s : Shared ι) (i : ι) (name : Text) : Prop :=
  ∀ value, s.after (.assign i name value) = { s with
    registers := { s.registers with globals := s.registers.globals.put (lower name) value } }

/-- Assigning the name stays with the handler: whatever the value is, it stands among the handler's
own variables, and nothing else is touched. -/
def StaysLocal (s : Shared ι) (i : ι) (name : Text) : Prop :=
  ∀ value, s.after (.assign i name value) = { s with
    contexts := Function.update s.contexts i
      { s.contexts i with locals := (s.contexts i).locals.put (lower name) value } }

variable {s : Shared ι} {r : Registers} {origins : ι → Option Text} {i j : ι} {name key : Text}
  {accesses : List (Access ι)}

theorem run_concat (access : Access ι) :
    s.run (accesses ++ [access]) = (s.run accesses).after access := by
  rw [run, run, List.foldl_append, List.foldl_cons, List.foldl_nil]

@[simp] theorem view_withVariables_self (v : Variables) :
    (s.withVariables i v).view i = v := by
  simp [view, withVariables]

theorem contexts_withVariables_of_ne (v : Variables) (h : j ≠ i) :
    (s.withVariables i v).contexts j = s.contexts j :=
  Function.update_of_ne h _ _

/-! ### One assignment -/

theorem goesGlobal_of_writesGlobal (h : (s.view i).writesGlobal (lower name)) :
    s.GoesGlobal i name := by
  intro value
  rw [after, Variables.assign_global _ name value h, withVariables]
  exact congrArg (Shared.mk _) (Function.update_eq_self i s.contexts)

theorem staysLocal_of_not_writesGlobal (h : ¬(s.view i).writesGlobal (lower name)) :
    s.StaysLocal i name := by
  intro value
  rw [after, Variables.assign_local _ name value h]
  rfl

/-- An assignment to a local variable shows there, so it has not gone to the global table alone. -/
theorem StaysLocal.not_goesGlobal (h : s.StaysLocal i name) : ¬s.GoesGlobal i name := by
  intro hglobal
  have hput (value : Text) :
      (s.contexts i).locals.get? (lower name) = some value := by
    have hsame := congrArg (fun t : Shared ι => (t.contexts i).locals.get? (lower name))
      ((h value).symm.trans (hglobal value))
    simpa [Table.get?_put] using hsame.symm
  exact nomatch (hput []).symm.trans (hput ['0'])

theorem goesGlobal_iff : s.GoesGlobal i name ↔ (s.view i).writesGlobal (lower name) := by
  refine ⟨fun h => ?_, goesGlobal_of_writesGlobal⟩
  by_contra hlocal
  exact (staysLocal_of_not_writesGlobal hlocal).not_goesGlobal h

/-- What a handler has assigned only another handler's access to the global table can tell. -/
theorem lookup?_other (h : ¬s.GoesGlobal i name) (hj : j ≠ i) (value other : Text) :
    ((s.after (.assign i name value)).view j).lookup? other =
      (s.view j).lookup? other := by
  have hlocal := staysLocal_of_not_writesGlobal (mt goesGlobal_of_writesGlobal h)
  rw [hlocal value]
  unfold view
  dsimp only
  rw [Function.update_of_ne hj]

/-! ### Names that are declared and names that are global -/

theorem mem_declared_after (access : Access ι) :
    key ∈ ((s.after access).contexts i).declared ↔
      key ∈ (s.contexts i).declared ∨ ∃ name, access = .declare i name ∧ lower name = key := by
  cases access with
  | declare j name =>
      by_cases hj : i = j
      · subst hj
        have hmem : key ∈ ((s.view i).declare name).context.declared ↔ _ :=
          Variables.mem_declared_declare (s.view i) name
        simpa [after, withVariables, view, eq_comm] using hmem
      · rw [after, contexts_withVariables_of_ne _ hj]
        simp [Ne.symm hj]
  | assign j name value =>
      by_cases hj : i = j
      · subst hj
        have hsame := Variables.declared_assign (s.view i) name value
        simpa [after, withVariables, view] using congrArg (key ∈ ·) hsame
      · rw [after, contexts_withVariables_of_ne _ hj]
        simp
  | lookup j name => simp [after]

/-- A handler has declared what it has declared itself. -/
theorem mem_declared_run :
    key ∈ (((start r origins).run accesses).contexts i).declared ↔ DeclaredBy accesses i key := by
  induction accesses using List.reverseRecOn with
  | nil => simp [run, start, DeclaredBy]
  | append_singleton accesses access ih =>
      rw [run_concat, mem_declared_after, ih, declaredBy_concat]

/-- Only a declaration adds a name to the global table, where the declared names are in it: an
assignment that goes there finds its name. -/
theorem has_globals_after (h : ∀ i key, key ∈ (s.contexts i).declared → s.registers.globals.has key)
    (access : Access ι) :
    (s.after access).registers.globals.has key ↔
      s.registers.globals.has key ∨ ∃ i name, access = .declare i name ∧ lower name = key := by
  cases access with
  | declare j name =>
      refine (Variables.has_globals_declare (s.view j) name key).trans (or_congr_right ?_)
      constructor
      · rintro rfl
        exact ⟨j, name, rfl, rfl⟩
      · rintro ⟨_, _, hdeclare, rfl⟩
        cases hdeclare
        rfl
  | assign j name value =>
      have hnone : ¬∃ i other,
          Access.assign j name value = .declare i other ∧ lower other = key := by
        rintro ⟨_, _, hdeclare, -⟩
        exact nomatch hdeclare
      rw [or_iff_left hnone]
      by_cases hglobal : (s.view j).writesGlobal (lower name)
      · have hname : s.registers.globals.has (lower name) :=
          ((Variables.writesGlobal_iff _).mp hglobal).elim (h j _) And.left
        rw [goesGlobal_of_writesGlobal hglobal value]
        refine (Table.has_put _ _ _ _).trans (or_iff_right_of_imp ?_)
        rintro rfl
        exact hname
      · rw [staysLocal_of_not_writesGlobal hglobal value]
  | lookup j name => simp [after]

/-- The names in the global table are the ones that it began with and the declared ones. -/
theorem has_globals_run :
    ((start r origins).run accesses).registers.globals.has key ↔
      r.globals.has key ∨ ∃ i, DeclaredBy accesses i key := by
  induction accesses using List.reverseRecOn generalizing key with
  | nil => simp [run, start, DeclaredBy]
  | append_singleton accesses access ih =>
      have hdeclared (i : ι) (key : Text)
          (hkey : key ∈ (((start r origins).run accesses).contexts i).declared) :
          ((start r origins).run accesses).registers.globals.has key :=
        ih.mpr (.inr ⟨i, mem_declared_run.mp hkey⟩)
      rw [run_concat, has_globals_after hdeclared, ih]
      simp only [declaredBy_concat, exists_or, or_assoc]

/-! ### Names that are not global -/

theorem latest?_concat (access : Access ι) :
    latest? i key (accesses ++ [access]) =
      match access with
      | .assign j name value =>
        if j = i ∧ lower name = key then some value else latest? i key accesses
      | _ => latest? i key accesses := by
  rw [latest?, List.foldl_append, List.foldl_cons, List.foldl_nil]
  rfl

/-- The handler `i` has not assigned a name that has no latest value there. -/
theorem latest?_eq_none
    (h : ∀ name value, Access.assign i name value ∈ accesses → lower name ≠ key) :
    latest? i key accesses = none := by
  induction accesses using List.reverseRecOn with
  | nil => rfl
  | append_singleton accesses access ih =>
      have hbefore := ih fun name value hmem => h name value (List.mem_append_left _ hmem)
      rw [latest?_concat]
      cases access with
      | declare j name => exact hbefore
      | assign j name value =>
          have hother : ¬(j = i ∧ lower name = key) := by
            rintro ⟨rfl, hname⟩
            exact h name value (List.mem_append_right _ (List.mem_singleton_self _)) hname
          exact (if_neg hother).trans hbefore
      | lookup j name => exact hbefore

theorem locals_declare (v : Variables) (name : Text) :
    (v.declare name).context.locals = v.context.locals := rfl

/-- As long as a name is not global, assignments by the handler are what changes its own variable
of that name. -/
theorem locals_after (hglobal : ¬s.registers.globals.has key)
    (hdeclared : key ∉ (s.contexts i).declared) (access : Access ι) :
    ((s.after access).contexts i).locals.get? key =
      match access with
      | .assign j name value =>
        if j = i ∧ lower name = key then some value else (s.contexts i).locals.get? key
      | _ => (s.contexts i).locals.get? key := by
  cases access with
  | declare j name =>
      by_cases hj : i = j
      · subst hj
        rw [after, withVariables]
        simp [view, locals_declare]
      · rw [after, contexts_withVariables_of_ne _ hj]
  | lookup j name => rfl
  | assign j name value =>
      by_cases hwrites : (s.view j).writesGlobal (lower name)
      · have hname : ¬(j = i ∧ lower name = key) := by
          rintro ⟨rfl, rfl⟩
          exact ((Variables.writesGlobal_iff _).mp hwrites).elim hdeclared fun h => hglobal h.1
        rw [goesGlobal_of_writesGlobal hwrites value]
        simp [hname]
      · rw [staysLocal_of_not_writesGlobal hwrites value]
        by_cases hj : j = i
        · subst hj
          simp [Table.get?_put, eq_comm]
        · simp [hj, Function.update_of_ne (Ne.symm hj)]

theorem locals_run (hglobal : ¬r.globals.has key) (hdeclared : ∀ i, ¬DeclaredBy accesses i key) :
    (((start r origins).run accesses).contexts i).locals.get? key = latest? i key accesses := by
  induction accesses using List.reverseRecOn with
  | nil => rfl
  | append_singleton accesses access ih =>
      have hbefore (i : ι) : ¬DeclaredBy accesses i key := fun h =>
        hdeclared i (declaredBy_concat.mpr (.inl h))
      have hnone : ¬((start r origins).run accesses).registers.globals.has key := by
        rw [has_globals_run]
        exact not_or.mpr ⟨hglobal, not_exists.mpr hbefore⟩
      rw [run_concat, locals_after hnone (mt mem_declared_run.mp (hbefore i)), latest?_concat,
        ih hbefore]

/-- A name that is not global is seen by a handler as it has assigned it last, whatever others have
done. -/
theorem lookup?_run (hglobal : ¬r.globals.has (lower name))
    (hdeclared : ∀ i, ¬DeclaredBy accesses i (lower name)) :
    (((start r origins).run accesses).view i).lookup? name =
      latest? i (lower name) accesses := by
  have hnone : ((start r origins).run accesses).registers.globals.get? (lower name) = none := by
    have hhas : ¬((start r origins).run accesses).registers.globals.has (lower name) := by
      rw [has_globals_run]
      exact not_or.mpr ⟨hglobal, not_exists.mpr hdeclared⟩
    simpa [Table.has] using hhas
  have hmem : lower name ∉ (((start r origins).run accesses).view i).context.declared :=
    mt mem_declared_run.mp (hdeclared i)
  simp only [Variables.lookup?, List.contains_iff_mem, hmem, ↓reduceIte]
  exact (congrArg _ hnone).trans (Option.or_none.trans (locals_run hglobal hdeclared))

/-! ### Scoping -/

/-- **Scoping of variables.**  Let any handlers have declared, assigned and looked up variables in
any order on one engine.  When a handler then assigns a name, it finds the value under this name in
any case, and the others as they were; another handler finds something changed only if the
assignment went to the global table.  It goes there exactly if the handler has declared the name,
or the name is global and the handler has no variable of its own with that name; else it stays with
the handler.  The global names are those that were global at the beginning and those that some
handler has declared, so any other name is seen only where it has been assigned, with the value
that was assigned there last. -/
theorem variables_scoped (r : Registers) (origins : ι → Option Text)
    (accesses : List (Access ι)) :
    let s := (start r origins).run accesses
    (∀ i name value,
      let s' := s.after (.assign i name value)
      (∀ other, (s'.view i).lookup? other =
        if lower other = lower name then some value else (s.view i).lookup? other) ∧
      (∀ j other, j ≠ i → (s'.view j).lookup? other ≠ (s.view j).lookup? other →
        s.GoesGlobal i name)) ∧
    (∀ i name,
      (s.GoesGlobal i name ↔ DeclaredBy accesses i (lower name) ∨
        s.registers.globals.has (lower name) ∧ ¬(s.contexts i).locals.has (lower name)) ∧
      (¬s.GoesGlobal i name → s.StaysLocal i name)) ∧
    (∀ key, s.registers.globals.has key ↔
      r.globals.has key ∨ ∃ i, DeclaredBy accesses i key) ∧
    (∀ name, ¬r.globals.has (lower name) → (∀ i, ¬DeclaredBy accesses i (lower name)) →
      ∀ i, (s.view i).lookup? name = latest? i (lower name) accesses ∧
        ((∀ other value, .assign i other value ∈ accesses → lower other ≠ lower name) →
          (s.view i).lookup? name = none)) := by
  intro s
  refine ⟨fun i name value => ⟨fun other => ?_, fun j other hj hchange => ?_⟩,
    fun i name => ⟨?_, fun h => ?_⟩, fun key => has_globals_run, ?_⟩
  · rw [after, view_withVariables_self]
    exact Variables.lookup?_assign _ name value other
  · by_contra hlocal
    exact hchange (lookup?_other hlocal hj value other)
  · rw [goesGlobal_iff, Variables.writesGlobal_iff]
    exact or_congr_left mem_declared_run
  · exact staysLocal_of_not_writesGlobal (mt goesGlobal_of_writesGlobal h)
  · intro name hglobal hdeclared i
    have hlatest : (s.view i).lookup? name = latest? i (lower name) accesses :=
      lookup?_run hglobal hdeclared
    exact ⟨hlatest, fun hnever => hlatest.trans (latest?_eq_none hnever)⟩

-- A handler that has assigned a name before another one declares it keeps its own variable, and a
-- third one sees the global variable.
example :
    let s := (start {} fun _ : Fin 3 => none).run
      [.assign 0 ['x'] ['1'], .declare 1 ['X'], .assign 2 ['x'] ['2'], .assign 0 ['x'] ['3']]
    (s.view 0).lookup? ['X'] = some ['3'] ∧ (s.view 1).lookup? ['x'] = some ['2'] := by
  decide

end Shared

end CardTalk
