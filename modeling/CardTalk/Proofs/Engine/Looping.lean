/-
How often a loop without a count runs its body.

The condition of such a loop is looked at before every round, and the body is any handler: it may
change what the condition reads, sleep, and have loops inside.  `Rounds` is what a number of
rounds makes of the state, the condition saying before each of them that the loop goes on, and
`Ended` says how a loop can end when rounds are limited.  A loop ends in exactly these ways
(`whileHolds_reaches`): the condition has stopped it after no more rounds than the limit, or it
has been abandoned, with one warning, because it was to go on after as many.

The rounds are counted by the loop itself and not in the state, so a loop inside the body begins
to count anew in every round.
-/
import CardTalk.Proofs.Engine.Putting
import CardTalk.Proofs.Run
import CardTalk.Host.Line.Runtime
import Mathlib.Logic.Function.Iterate

namespace CardTalk.Handler

open Engine Script

/-! ### Conditions -/

/-- What expressions are evaluated against in a handler. -/
def viewOf (s : Engine × Context) : View := ⟨s.1.scene, ⟨s.1.registers, s.2⟩, s.1.surroundings⟩

/-- A loop without a count, with what its condition says about going on. -/
inductive OpenEnded : Loop → (Engine × Context → Except Fault Bool) → Prop
  | whileTrue (condition : Text) :
      OpenEnded (.whileTrue condition) fun s => (Expr.evaluate (viewOf s) condition).map isTruthy
  | untilTrue (condition : Text) :
      OpenEnded (.untilTrue condition) fun s =>
        (Expr.evaluate (viewOf s) condition).map fun value => !isTruthy value
  | forever : OpenEnded .forever fun _ => .ok true

theorem isTrue_eq (condition : Text) (s : Engine × Context) :
    isTrue condition s =
      .finished ((Expr.evaluate (viewOf s) condition).map isTruthy) s := by
  have hrun : isTrue condition s = (Run.finished (Expr.evaluate (viewOf s) condition) s).bind
      fun value => pure (isTruthy value) := rfl
  rw [hrun]
  cases Expr.evaluate (viewOf s) condition <;> rfl

/-- The log entry for a loop that is abandoned. -/
def abandonment (limit : Int) (header : Text) : Event :=
  .log .warning (("Repeat loop abandoned after " : Text) ++ Text.ofInt limit ++ " iterations: "
    ++ header)

/-- What abandoning a loop leaves. -/
def abandon (limit : Int) (header : Text) (s : Engine × Context) : Engine × Context :=
  ({ s.1 with trace := abandonment limit header :: s.1.trace }, s.2)

/-- A loop without a count runs its body while its condition says so. -/
theorem loop_openEnded {form : Loop} {goesOn : Engine × Context → Except Fault Bool}
    (hform : OpenEnded form goesOn) (header : Text) (body : Handler Unit) {limit : Int}
    {s : Engine × Context} (hlimit : s.1.settings.repeatLimit = .value (.int limit)) :
    loop header form body s =
      whileHolds (fun s => .finished (goesOn s) s) body
        (fun s => .finished (.ok ()) (abandon limit header s)) limit.toNat s := by
  have hopen : ∀ condition : Handler Bool, openEnded header condition body s =
      whileHolds condition body (fun s => .finished (.ok ()) (abandon limit header s))
        limit.toNat s := by
    intro condition
    have hbounded : Quantity.ofData? s.1.settings.repeatLimit = some (.int limit) := by
      rw [hlimit]
      rfl
    have hget : ∀ next : Engine × Context → Handler Unit, (get >>= next) s = next s s :=
      fun _ => rfl
    rw [openEnded, hget]
    dsimp only
    rw [hbounded]
    rfl
  cases hform with
  | whileTrue condition =>
      have hcondition := funext (isTrue_eq condition)
      rw [loop, hopen, hcondition]
  | untilTrue condition =>
      have hcondition : (do return !(← isTrue condition) : Handler Bool) = fun s =>
          .finished ((Expr.evaluate (viewOf s) condition).map fun value => !isTruthy value) s := by
        funext s
        show (isTrue condition s).bind _ = _
        rw [isTrue_eq]
        cases Expr.evaluate (viewOf s) condition <;> rfl
      rw [loop, hopen, hcondition]
  | forever => exact hopen _

/-! ### Rounds -/

section

variable (body : Handler Unit) (others : Engine × Context → Engine × Context → Prop)
  (goesOn : Engine × Context → Except Fault Bool)

/-- What a number of rounds of a body can make of a state, while others do what they may: before
each round the loop is to go on, and the round does not fail. -/
inductive Rounds : Nat → Engine × Context → Engine × Context → Prop
  | none {s : Engine × Context} : Rounds 0 s s
  | more {n : Nat} {s s' t : Engine × Context} (hgo : goesOn s = .ok true)
      (hbody : (body s).Reaches others (.ok ()) s') (h : Rounds n s' t) : Rounds (n + 1) s t

/-- How a loop whose rounds are limited can end. -/
inductive Ended (giveUp : Engine × Context → Engine × Context) (limit : Nat)
    (s : Engine × Context) : Except Fault Unit → Engine × Context → Prop
  /-- The condition stops it. -/
  | stopped {k : Nat} {t : Engine × Context} (hk : k ≤ limit)
      (h : Rounds body others goesOn k s t) (hstop : goesOn t = .ok false) :
      Ended giveUp limit s (.ok ()) t
  /-- It is to go on after as many rounds as the limit allows. -/
  | abandoned {t : Engine × Context} (h : Rounds body others goesOn limit s t)
      (hgo : goesOn t = .ok true) : Ended giveUp limit s (.ok ()) (giveUp t)
  /-- The condition has no value. -/
  | undecided {k : Nat} {t : Engine × Context} {f : Fault} (hk : k ≤ limit)
      (h : Rounds body others goesOn k s t) (hfails : goesOn t = .error f) :
      Ended giveUp limit s (.error f) t
  /-- A round fails. -/
  | failed {k : Nat} {t t' : Engine × Context} {f : Fault} (hk : k < limit)
      (h : Rounds body others goesOn k s t) (hgo : goesOn t = .ok true)
      (hbody : (body t).Reaches others (.error f) t') : Ended giveUp limit s (.error f) t'

end

section

variable {body : Handler Unit} {others : Engine × Context → Engine × Context → Prop}
  {goesOn : Engine × Context → Except Fault Bool} {giveUp : Engine × Context → Engine × Context}
  {limit : Nat} {s s' t : Engine × Context} {outcome : Except Fault Unit}

/-- A loop that goes on ends as it does from the state after its next round. -/
theorem Ended.more (hgo : goesOn s = .ok true) (hbody : (body s).Reaches others (.ok ()) s')
    (h : Ended body others goesOn giveUp limit s' outcome t) :
    Ended body others goesOn giveUp (limit + 1) s outcome t := by
  cases h with
  | stopped hk h hstop => exact .stopped (Nat.succ_le_succ hk) (.more hgo hbody h) hstop
  | abandoned h hgo' => exact .abandoned (.more hgo hbody h) hgo'
  | undecided hk h hfails => exact .undecided (Nat.succ_le_succ hk) (.more hgo hbody h) hfails
  | failed hk h hgo' hbody' => exact .failed (Nat.succ_lt_succ hk) (.more hgo hbody h) hgo' hbody'

/-- A loop that is to go on runs its body once and ends as it does from there, unless the body
fails. -/
theorem ended_succ (hgo : goesOn s = .ok true) :
    Ended body others goesOn giveUp (limit + 1) s outcome t ↔
      (∃ s', (body s).Reaches others (.ok ()) s' ∧
        Ended body others goesOn giveUp limit s' outcome t) ∨
      ∃ f, (body s).Reaches others (.error f) t ∧ outcome = .error f := by
  constructor
  · intro h
    cases h with
    | stopped hk h hstop =>
        cases h with
        | none => exact nomatch hgo.symm.trans hstop
        | more _ hbody h => exact .inl ⟨_, hbody, .stopped (Nat.le_of_succ_le_succ hk) h hstop⟩
    | abandoned h hgo' =>
        cases h with
        | more _ hbody h => exact .inl ⟨_, hbody, .abandoned h hgo'⟩
    | undecided hk h hfails =>
        cases h with
        | none => exact nomatch hgo.symm.trans hfails
        | more _ hbody h => exact .inl ⟨_, hbody, .undecided (Nat.le_of_succ_le_succ hk) h hfails⟩
    | failed hk h hgo' hbody' =>
        cases h with
        | none => exact .inr ⟨_, hbody', rfl⟩
        | more _ hbody h =>
            exact .inl ⟨_, hbody, .failed (Nat.lt_of_succ_lt_succ hk) h hgo' hbody'⟩
  · rintro (⟨s', hbody, h⟩ | ⟨f, hbody, rfl⟩)
    · exact h.more hgo hbody
    · exact .failed (Nat.succ_pos limit) .none hgo hbody

/-- A loop that is to go on and has no rounds left is abandoned. -/
theorem ended_zero (hgo : goesOn s = .ok true) :
    Ended body others goesOn giveUp 0 s outcome t ↔ outcome = .ok () ∧ t = giveUp s := by
  constructor
  · intro h
    cases h with
    | stopped hk h hstop =>
        obtain rfl := Nat.le_zero.mp hk
        cases h
        exact nomatch hgo.symm.trans hstop
    | abandoned h =>
        cases h
        exact ⟨rfl, rfl⟩
    | undecided hk h hfails =>
        obtain rfl := Nat.le_zero.mp hk
        cases h
        exact nomatch hgo.symm.trans hfails
    | failed hk => exact nomatch hk
  · rintro ⟨rfl, rfl⟩
    exact .abandoned .none hgo

/-- A loop that does not go on ends where it is. -/
theorem ended_of_ne (hgo : goesOn s ≠ .ok true) :
    Ended body others goesOn giveUp limit s outcome t ↔
      outcome = (goesOn s).map (fun _ => ()) ∧ t = s := by
  have hnone : ∀ {k t}, Rounds body others goesOn k s t → t = s := by
    intro k t h
    cases h with
    | none => rfl
    | more hgo' => exact absurd hgo' hgo
  constructor
  · intro h
    cases h with
    | stopped _ h hstop =>
        obtain rfl := hnone h
        exact ⟨by rw [hstop]; rfl, rfl⟩
    | abandoned h hgo' =>
        obtain rfl := hnone h
        exact absurd hgo' hgo
    | undecided _ h hfails =>
        obtain rfl := hnone h
        exact ⟨by rw [hfails]; rfl, rfl⟩
    | failed _ h hgo' =>
        obtain rfl := hnone h
        exact absurd hgo' hgo
  · rintro ⟨rfl, rfl⟩
    match hs : goesOn t with
    | .ok true => exact absurd hs hgo
    | .ok false => exact .stopped (Nat.zero_le limit) .none hs
    | .error f => exact .undecided (Nat.zero_le limit) .none hs

/-- A loop that does not go on ends as it is said to, whatever it would go on with. -/
theorem reaches_of_ne (hgo : goesOn s ≠ .ok true) (next : Handler Unit) :
    ((Run.finished (goesOn s) s).bind fun goes => if goes then next else pure ()).Reaches others
        outcome t ↔
      Ended body others goesOn giveUp limit s outcome t := by
  rw [ended_of_ne hgo]
  match hs : goesOn s with
  | .ok true => exact absurd hs hgo
  | .ok false => exact Run.reaches_finished
  | .error f => exact Run.reaches_finished

/-- The ways in which a limited loop can end are those of `Ended`. -/
theorem whileHolds_reaches :
    (whileHolds (fun s => .finished (goesOn s) s) body (fun s => .finished (.ok ()) (giveUp s))
        limit s).Reaches others outcome t ↔
      Ended body others goesOn giveUp limit s outcome t := by
  induction limit generalizing s with
  | zero =>
      have hloop : whileHolds (fun s => .finished (goesOn s) s) body
          (fun s => .finished (.ok ()) (giveUp s)) 0 s = (Run.finished (goesOn s) s).bind
            fun goes => if goes then fun s => .finished (.ok ()) (giveUp s) else pure () := rfl
      rw [hloop]
      by_cases hgo : goesOn s = .ok true
      · rw [hgo]
        exact Run.reaches_finished.trans (ended_zero hgo).symm
      · exact reaches_of_ne hgo _
  | succ limit ih =>
      have hloop : whileHolds (fun s => .finished (goesOn s) s) body
          (fun s => .finished (.ok ()) (giveUp s)) (limit + 1) s = (Run.finished (goesOn s) s).bind
            fun goes => if goes then body >>= fun _ =>
              whileHolds (fun s => .finished (goesOn s) s) body
                (fun s => .finished (.ok ()) (giveUp s)) limit
              else pure () := rfl
      rw [hloop]
      by_cases hgo : goesOn s = .ok true
      · rw [hgo]
        have hbind : ((body s).bind fun _ => whileHolds (fun s => .finished (goesOn s) s) body
            (fun s => .finished (.ok ()) (giveUp s)) limit).Reaches others outcome t ↔ _ :=
          Run.reaches_bind (body s)
        refine hbind.trans (Iff.trans ?_ (ended_succ hgo).symm)
        simp only [ih]
        exact or_congr ⟨fun ⟨_, s', h⟩ => ⟨s', h⟩, fun ⟨s', h⟩ => ⟨(), s', h⟩⟩ Iff.rfl
      · exact reaches_of_ne hgo _

end

/-! ### The limit -/

/-- The state after a number of rounds of a body that is left to itself. -/
def afterRounds (body : Handler Unit) (s : Engine × Context) (k : Nat) : Engine × Context :=
  (fun s => (body s).complete.2)^[k] s

/-- Where nobody interferes, there is one state that a number of rounds can leave. -/
theorem rounds_alone {body : Handler Unit} {goesOn : Engine × Context → Except Fault Bool}
    {k : Nat} {s : Engine × Context}
    (h : ∀ j < k, goesOn (afterRounds body s j) = .ok true ∧
      (body (afterRounds body s j)).complete.1 = .ok ()) :
    Rounds body (· = ·) goesOn k s (afterRounds body s k) := by
  induction k generalizing s with
  | zero => exact .none
  | succ k ih =>
      obtain ⟨hgo, hbody⟩ := h 0 (Nat.succ_pos k)
      refine .more hgo ((Run.reaches_alone _).mpr (Prod.ext hbody rfl)) ?_
      exact ih fun j hj => h (j + 1) (Nat.succ_lt_succ hj)

/-- **A loop without a count runs its body until its condition says stop, or as often as the limit
allows and never more often.**  However the body sleeps and whatever others do meanwhile, the
loop ends in the ways of `Ended` and in no others.  Where it is left to itself and no round
fails, it therefore ends in the state after `k` rounds if `k` is the least number of rounds
after which the condition says stop and the limit is not below `k`; and if the condition never
says stop up to the limit, in the state after as many rounds as the limit, with one warning
more in the log.  The rounds are counted from none whenever a loop is reached, inside of
another one as well. -/
theorem loop_runs_within_limit (dispatch : Dispatch) (header : Text) (nodes : List Node)
    {form : Loop} {goesOn : Engine × Context → Except Fault Bool} (hform : OpenEnded form goesOn)
    {limit : Nat} {s : Engine × Context}
    (hlimit : s.1.settings.repeatLimit = .value (.int limit)) :
    let body := runNodes dispatch nodes
    let run := runNode dispatch (.loop header form nodes) s
    (∀ others outcome t, run.Reaches others outcome t ↔
      Ended body others goesOn (abandon limit header) limit s outcome t) ∧
    (∀ k ≤ limit, (∀ j < k, goesOn (afterRounds body s j) = .ok true ∧
        (body (afterRounds body s j)).complete.1 = .ok ()) →
      goesOn (afterRounds body s k) = .ok false →
        run.complete = (.ok (), afterRounds body s k)) ∧
    ((∀ j < limit, goesOn (afterRounds body s j) = .ok true ∧
        (body (afterRounds body s j)).complete.1 = .ok ()) →
      goesOn (afterRounds body s limit) = .ok true →
        run.complete = (.ok (), abandon limit header (afterRounds body s limit))) := by
  intro body run
  have hends : ∀ others outcome t, run.Reaches others outcome t ↔
      Ended body others goesOn (abandon limit header) limit s outcome t := by
    intro others outcome t
    have hrun : run = loop header form body s := by
      show runNode dispatch (.loop header form nodes) s = _
      rw [runNode]
    rw [hrun, loop_openEnded hform header body hlimit, Int.toNat_natCast]
    exact whileHolds_reaches
  refine ⟨hends, fun k hk hrounds hstop => ?_, fun hrounds hgo => ?_⟩
  · exact (Run.reaches_alone run).mp ((hends _ _ _).mpr (.stopped hk (rounds_alone hrounds) hstop))
  · exact (Run.reaches_alone run).mp ((hends _ _ _).mpr (.abandoned (rounds_alone hrounds) hgo))

/-- An engine on one card whose loops may run twice. -/
def impatient : Engine :=
  .new (.assemble (.usual "s") [] [.usual "a" "A"] 0 0)
    { hostMarker := none, repeatLimit := .value (.int 2), ticksPerSecond := .null
      serializeEvents := .ok true, idleInterval := .ok .null, isServed := .ok false }
    { console := none, replies := [], failure := fun _ => none }
    (.still .bare)

/-- What a loop that never stops repeats. -/
def lengthening : List Node := [.command "put \"y\" after line"]

/-- What a loop repeats that has the one that never stops inside. -/
def nested : List Node := [.command "put \"x\" after it", .loop "repeat" .forever lengthening]

/-- A loop that is to stop exactly at the limit does so without a warning; the loop inside, which
is abandoned with one, runs as often as the limit allows in each of its rounds. -/
theorem loop_runs_within_limit_nested :
    let s : Engine × Context := (impatient, {})
    let stopped := afterRounds (runNodes (dispatchAt 1) nested) s 2
    (runNode (dispatchAt 1) (.loop "repeat until" (.untilTrue "it is \"xx\"") nested) s).complete =
        (.ok (), stopped) ∧
      (runNode (dispatchAt 1) (.loop "repeat" .forever lengthening) s).complete =
        (.ok (), abandon 2 "repeat" (afterRounds (runNodes (dispatchAt 1) lengthening) s 2)) ∧
      stopped.1.registers.it = "xx" ∧
      stopped.2.locals = [(("line" : Text), ("yyyy" : Text))] ∧
      stopped.1.trace = [abandonment 2 "repeat", abandonment 2 "repeat"] := by
  refine ⟨?_, ?_, by decide +kernel, by decide +kernel, by decide +kernel⟩
  · exact (loop_runs_within_limit (dispatchAt 1) "repeat until" nested (.untilTrue _) rfl).2.1 2
      (Nat.le_refl 2) (by decide +kernel) (by decide +kernel)
  · exact (loop_runs_within_limit (dispatchAt 1) "repeat" lengthening .forever rfl).2.2
      (by decide +kernel) rfl

end CardTalk.Handler
