/-
How often a counted loop runs its body.

The bounds of such a loop are evaluated once, where the loop is reached, and what is left of them
without their places says what the runs are: a number of runs with nothing done before them, or
one run for every integer between the bounds, the variable being given the integer before it
(`Schedule`).  The body is any handler: it may change the variable and whatever the bounds were
computed from, sleep, and have loops inside.  A loop ends in exactly the ways in which the runs of
its schedule can end, one after the other (`Ends`).
-/
import CardTalk.Proofs.Engine.Looping
import CardTalk.Proofs.Number.Value
import CardTalk.Proofs.Variables

namespace CardTalk.Handler

open Engine Script

/-! ### Bounds -/

/-- The value that an expression has in a state stands for a finite number. -/
def Denotes (s : Engine × Context) (source : Text) (q : ℚ) : Prop :=
  ∃ value, Expr.evaluate (viewOf s) source = .ok value ∧
    Number.value? (numberOrZero value) = some q

/-! ### Schedules -/

/-- What a state is when a variable has been given an integer. -/
def give (var : Text) (i : ℤ) (s : Engine × Context) : Engine × Context :=
  let v := Variables.assign ⟨s.1.registers, s.2⟩ var (Text.ofInt i)
  ({ s.1 with registers := v.registers }, v.context)

/-- A variable that has been given an integer holds it. -/
theorem lookup?_give (var : Text) (i : ℤ) (s : Engine × Context) :
    (viewOf (give var i s)).bindings.lookup? var = some (Text.ofInt i) :=
  (Variables.lookup?_assign _ var _ var).trans (if_pos rfl)

/-- What is done to the state before a run. -/
abbrev Start : Type := Engine × Context → Engine × Context

/-- What is done to the state before each of the runs that a counted loop is to make where it is
reached. -/
inductive Schedule (s : Engine × Context) : Loop → List Start → Prop
  | times {count : Text} {q : ℚ} (hcount : Denotes s count q) :
      Schedule s (.times count) (List.replicate (towardZero q).toNat id)
  | up {var start stop : Text} {m n : ℚ} {is : List ℤ} (hstart : Denotes s start m)
      (hstop : Denotes s stop n) (hsorted : is.Pairwise (· < ·))
      (his : ∀ i, i ∈ is ↔ towardZero m ≤ i ∧ i ≤ towardZero n) :
      Schedule s (.counting var start stop false) (is.map (give var))
  | down {var start stop : Text} {m n : ℚ} {is : List ℤ} (hstart : Denotes s start m)
      (hstop : Denotes s stop n) (hsorted : is.Pairwise (· > ·))
      (his : ∀ i, i ∈ is ↔ towardZero n ≤ i ∧ i ≤ towardZero m) :
      Schedule s (.counting var start stop true) (is.map (give var))

/-- A loop with a count whose bounds stand for finite numbers. -/
inductive Counted (s : Engine × Context) : Loop → Prop
  | times {count : Text} {q : ℚ} (hcount : Denotes s count q) : Counted s (.times count)
  | counting {var start stop : Text} {down : Bool} {m n : ℚ} (hstart : Denotes s start m)
      (hstop : Denotes s stop n) : Counted s (.counting var start stop down)

/-! ### Runs -/

section

variable (body : Handler Unit) (others : Engine × Context → Engine × Context → Prop)

/-- What runs of a body can make of a state, while others do what they may, if no run fails. -/
inductive Turns : List Start → Engine × Context → Engine × Context → Prop
  | none {s : Engine × Context} : Turns [] s s
  | more {start : Start} {starts : List Start} {s s' t : Engine × Context}
      (hbody : (body (start s)).Reaches others (.ok ()) s') (h : Turns starts s' t) :
      Turns (start :: starts) s t

/-- How a schedule of runs can end. -/
inductive Ends (starts : List Start) (s : Engine × Context) :
    Except Fault Unit → Engine × Context → Prop
  /-- All runs are made. -/
  | complete {t : Engine × Context} (h : Turns body others starts s t) : Ends starts s (.ok ()) t
  /-- A run fails, and none are made after it. -/
  | failed {before after : List Start} {start : Start} {t t' : Engine × Context} {f : Fault}
      (hstarts : starts = before ++ start :: after) (h : Turns body others before s t)
      (hbody : (body (start t)).Reaches others (.error f) t') : Ends starts s (.error f) t'

/-- Runs a body as often as there are starts. -/
def runEach : List Start → Handler Unit
  | [] => pure ()
  | start :: starts => fun s => (body (start s)).bind fun _ => runEach starts

end

section

variable {body : Handler Unit} {others : Engine × Context → Engine × Context → Prop}
  {starts : List Start} {s t : Engine × Context} {outcome : Except Fault Unit}

theorem ends_nil : Ends body others [] s outcome t ↔ outcome = .ok () ∧ t = s := by
  constructor
  · intro h
    cases h with
    | complete h =>
        cases h
        exact ⟨rfl, rfl⟩
    | failed hstarts => simp at hstarts
  · rintro ⟨rfl, rfl⟩
    exact .complete .none

/-- A schedule makes its first run and ends as the rest does from there, unless the run fails. -/
theorem ends_cons {start : Start} :
    Ends body others (start :: starts) s outcome t ↔
      (∃ s', (body (start s)).Reaches others (.ok ()) s' ∧
        Ends body others starts s' outcome t) ∨
      ∃ f, (body (start s)).Reaches others (.error f) t ∧ outcome = .error f := by
  constructor
  · intro h
    cases h with
    | complete h =>
        cases h with
        | more hbody h => exact .inl ⟨_, hbody, .complete h⟩
    | @failed before _ _ _ _ _ hstarts h hbody =>
        cases h with
        | none =>
            obtain ⟨rfl, rfl⟩ := List.cons.inj hstarts
            exact .inr ⟨_, hbody, rfl⟩
        | more hbody' h =>
            obtain ⟨rfl, rfl⟩ := List.cons.inj hstarts
            exact .inl ⟨_, hbody', .failed rfl h hbody⟩
  · rintro (⟨s', hbody, h⟩ | ⟨f, hbody, rfl⟩)
    · cases h with
      | complete h => exact .complete (.more hbody h)
      | failed hstarts h hbody' => exact .failed (congrArg _ hstarts) (.more hbody h) hbody'
    · exact Ends.failed (List.nil_append _).symm .none hbody

theorem runEach_reaches :
    (runEach body starts s).Reaches others outcome t ↔ Ends body others starts s outcome t := by
  induction starts generalizing s with
  | nil => exact Run.reaches_finished.trans ends_nil.symm
  | cons start starts ih =>
      have hbind : ((body (start s)).bind fun _ => runEach body starts).Reaches
          others outcome t ↔ _ := Run.reaches_bind (body (start s))
      refine hbind.trans (Iff.trans ?_ ends_cons.symm)
      simp only [ih]
      exact or_congr ⟨fun ⟨_, s', h⟩ => ⟨s', h⟩, fun ⟨s', h⟩ => ⟨(), s', h⟩⟩ Iff.rfl

/-- The state after runs of a body that is left to itself. -/
def afterTurns (body : Handler Unit) (s : Engine × Context) (starts : List Start) :
    Engine × Context :=
  starts.foldl (fun s start => (body (start s)).complete.2) s

/-- Where nobody interferes, there is one state that a schedule can leave. -/
theorem turns_alone
    (h : ∀ before start after, starts = before ++ start :: after →
      (body (start (afterTurns body s before))).complete.1 = .ok ()) :
    Turns body (· = ·) starts s (afterTurns body s starts) := by
  induction starts generalizing s with
  | nil => exact .none
  | cons start starts ih =>
      refine .more (Run.reaches_complete (h [] start starts rfl)) (ih ?_)
      intro before start' after hstarts
      exact h (start :: before) start' after (congrArg _ hstarts)

end

/-! ### Counting -/

/-- The integers that a counter goes through. -/
def progression (next step : ℤ) : ℕ → List ℤ
  | 0 => []
  | n + 1 => next :: progression (next + step) step n

theorem mem_progression {next step i : ℤ} {n : ℕ} :
    i ∈ progression next step n ↔ ∃ k < n, i = next + k * step := by
  induction n generalizing next with
  | zero => simp [progression]
  | succ n ih =>
      rw [progression, List.mem_cons, ih]
      constructor
      · rintro (rfl | ⟨k, hk, rfl⟩)
        · exact ⟨0, Nat.succ_pos n, by simp⟩
        · exact ⟨k + 1, Nat.succ_lt_succ hk, by push_cast; ring⟩
      · rintro ⟨k, hk, rfl⟩
        cases k with
        | zero => exact .inl (by simp)
        | succ k => exact .inr ⟨k, Nat.lt_of_succ_lt_succ hk, by push_cast; ring⟩

/-- Counting up goes through the integers from the one bound to the other, -/
theorem mem_progression_up {first last i : ℤ} :
    i ∈ progression first 1 (last - first + 1).toNat ↔ first ≤ i ∧ i ≤ last := by
  rw [mem_progression]
  constructor
  · rintro ⟨k, hk, rfl⟩
    omega
  · intro hi
    exact ⟨(i - first).toNat, by omega, by omega⟩

/-- and so does counting down. -/
theorem mem_progression_down {first last i : ℤ} :
    i ∈ progression first (-1) (first - last + 1).toNat ↔ last ≤ i ∧ i ≤ first := by
  rw [mem_progression]
  constructor
  · rintro ⟨k, hk, rfl⟩
    omega
  · intro hi
    exact ⟨(first - i).toNat, by omega, by omega⟩

theorem pairwise_lt_progression (next : ℤ) (n : ℕ) :
    (progression next 1 n).Pairwise (· < ·) := by
  induction n generalizing next with
  | zero => exact .nil
  | succ n ih =>
      refine List.pairwise_cons.mpr ⟨fun i hi => ?_, ih (next + 1)⟩
      obtain ⟨k, -, rfl⟩ := mem_progression.mp hi
      omega

theorem pairwise_gt_progression (next : ℤ) (n : ℕ) :
    (progression next (-1) n).Pairwise (· > ·) := by
  induction n generalizing next with
  | zero => exact .nil
  | succ n ih =>
      refine List.pairwise_cons.mpr ⟨fun i hi => ?_, ih (next + -1)⟩
      obtain ⟨k, -, rfl⟩ := mem_progression.mp hi
      omega

theorem times_eq_runEach (body : Handler Unit) (n : ℕ) :
    Action.times body n = runEach body (List.replicate n id) := by
  induction n with
  | zero => rfl
  | succ n ih =>
      rw [Action.times, ih]
      rfl

theorem counting_eq_runEach (var : Text) (step : ℤ) (body : Handler Unit) (next : ℤ) (n : ℕ) :
    counting var step body next n =
      runEach body ((progression next step n).map (give var)) := by
  induction n generalizing next with
  | zero => rfl
  | succ n ih =>
      rw [counting, ih]
      rfl

/-- A bound is cut off to an integer, and what is left of the loop goes on with that. -/
theorem bind_number {s : Engine × Context} {source : Text} {q : ℚ} (h : Denotes s source q)
    (next : ℤ → Handler Unit) :
    (number source >>= fun x => (do let n ← (Number.truncate x : Except Fault _); next n)) s =
      next (towardZero q) s := by
  obtain ⟨value, hvalue, hnumber⟩ := h
  have hwhole := Number.truncate_of_value? hnumber
  have hrun : number source s = (Run.finished (Expr.evaluate (viewOf s) source) s).bind
      fun value => pure (numberOrZero value) := rfl
  show (number source s).bind _ = _
  rw [hrun, hvalue]
  show (Run.finished (Number.truncate (numberOrZero value)) s).bind _ = _
  rw [hwhole]
  rfl

/-- A loop with a count runs its body by its schedule. -/
theorem loop_counted {form : Loop} {s : Engine × Context} (h : Counted s form) (header : Text)
    (body : Handler Unit) :
    ∃ starts, Schedule s form starts ∧ loop header form body s = runEach body starts s := by
  cases h with
  | @times count q hcount =>
      refine ⟨_, .times hcount, ?_⟩
      rw [← times_eq_runEach]
      exact bind_number hcount fun n => Action.times body n.toNat
  | @counting var start stop down m n hstart hstop =>
      have hloop : loop header (.counting var start stop down) body s =
          (if down then counting var (-1) body (towardZero m)
              (towardZero m - towardZero n + 1).toNat
            else counting var 1 body (towardZero m) (towardZero n - towardZero m + 1).toNat) s := by
        rw [loop]
        refine (bind_number hstart fun first => number stop >>= fun x => do
          let last ← (Number.truncate x : Except Fault _)
          if down then counting var (-1) body first (first - last + 1).toNat
          else counting var 1 body first (last - first + 1).toNat).trans ?_
        exact bind_number hstop fun last =>
          if down then counting var (-1) body (towardZero m) (towardZero m - last + 1).toNat
          else counting var 1 body (towardZero m) (last - towardZero m + 1).toNat
      rw [hloop]
      cases down with
      | false =>
          refine ⟨_, .up hstart hstop (pairwise_lt_progression _ _) fun i => mem_progression_up, ?_⟩
          rw [if_neg Bool.false_ne_true, counting_eq_runEach]
      | true =>
          refine ⟨_, .down hstart hstop (pairwise_gt_progression _ _)
            fun i => mem_progression_down, ?_⟩
          rw [if_pos rfl, counting_eq_runEach]

/-- **A loop with a count makes the runs that its bounds say where it is reached, and no others.**
They are as many as a number of times without its places, or one for every integer from the one
bound to the other, both without their places, in that direction; so there are none if the
number is negative or the bounds are the wrong way around.  Before each run the variable is
given its integer in decimal, whatever the run before has made of it.  However the body sleeps
and whatever others do meanwhile, the loop ends as these runs do, one after the other; where it
is left to itself and no run fails, it ends in the state after all of them. -/
theorem loop_runs_by_schedule (dispatch : Dispatch) (header : Text) (nodes : List Node)
    {form : Loop} {s : Engine × Context} (hform : Counted s form) :
    let body := runNodes dispatch nodes
    let run := runNode dispatch (.loop header form nodes) s
    ∃ starts, Schedule s form starts ∧
      (∀ others outcome t, run.Reaches others outcome t ↔
        Ends body others starts s outcome t) ∧
      ((∀ before start after, starts = before ++ start :: after →
          (body (start (afterTurns body s before))).complete.1 = .ok ()) →
        run.complete = (.ok (), afterTurns body s starts)) ∧
      ∀ var i t, (viewOf (give var i t)).bindings.lookup? var = some (Text.ofInt i) := by
  intro body run
  obtain ⟨starts, hschedule, hloop⟩ := loop_counted hform header body
  have hrun : run = runEach body starts s := by
    rw [← hloop]
    show runNode dispatch (.loop header form nodes) s = _
    rw [runNode]
  have hends : ∀ others outcome t, run.Reaches others outcome t ↔
      Ends body others starts s outcome t := by
    intro others outcome t
    rw [hrun]
    exact runEach_reaches
  refine ⟨starts, hschedule, hends, fun hturns => ?_, lookup?_give⟩
  exact (Run.reaches_alone run).mp ((hends _ _ _).mpr (.complete (turns_alone hturns)))

/-- What a loop repeats that overwrites its variable and its last bound. -/
def overwriting : List Node :=
  [.command "put i after it", .command "put 100 into i", .command "put 0 into n"]

/-- A loop counts on from where it was, up to what its bound was where it was reached: here from
1.9, which is cut off to one, to the three that is soon overwritten. -/
theorem loop_runs_by_schedule_overwriting :
    let s : Engine × Context := (impatient, { locals := [("n", "3")] })
    let form : Loop := .counting "i" "1.9" "n" false
    let run := runNode (dispatchAt 1) (.loop "repeat with i = 1.9 to n" form overwriting) s
    Counted s form ∧
      (∃ starts, Schedule s form starts ∧
        Ends (runNodes (dispatchAt 1) overwriting) (· = ·) starts s (.ok ()) run.complete.2) ∧
      run.complete.2.1.registers.it = "123" ∧
      run.complete.2.2.locals = [(("n" : Text), ("0" : Text)), (("i" : Text), ("100" : Text))] := by
  intro s form run
  have hdenotes : ∀ source value : Text, Expr.evaluate (viewOf s) source = .ok value →
      (Number.value? (numberOrZero value)).isSome → ∃ q, Denotes s source q :=
    fun source value hvalue hfinite => ⟨_, value, hvalue, (Option.some_get hfinite).symm⟩
  obtain ⟨m, hstart⟩ := hdenotes "1.9" "1.9" (by decide +kernel) (by decide +kernel)
  obtain ⟨n, hstop⟩ := hdenotes "n" "3" (by decide +kernel) (by decide +kernel)
  have hform : Counted s form := .counting hstart hstop
  obtain ⟨starts, hschedule, hends, -, -⟩ :=
    loop_runs_by_schedule (dispatchAt 1) "repeat with i = 1.9 to n" overwriting hform
  refine ⟨hform, ⟨starts, hschedule, ?_⟩, by decide +kernel, by decide +kernel⟩
  exact (hends _ _ _).mp (Run.reaches_complete (by decide +kernel))

end CardTalk.Handler
