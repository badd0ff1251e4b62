/-
Events of one source, one after the other.

With serialized events a session admits the events of a source in the order in which they
were posted, each after the one before it has ended (`session_serialized`).  When all events
of a session are from one source, nobody else touches the engine while one of them sleeps.
What finishing them in order would give is then the same before and after every turn, and
that is what posting them one after another gives.
-/
import CardTalk.Proofs.Session.Order
import CardTalk.Scene.Definition
import CardTalk.Proofs.Host.Line
import Mathlib.Data.List.Induction

namespace CardTalk

/-! ### Finishing tasks in order -/

namespace Pool

variable {σ α : Type}

/-- What the rest of some tasks gives when they are finished one after the other. -/
def finishAll : List (Task σ α) → σ → List (Except Fault α) × σ
  | [], s => ([], s)
  | t :: rest, s =>
    ((t.finish s).1 :: (finishAll rest (t.finish s).2).1, (finishAll rest (t.finish s).2).2)

theorem finishAll_append (l l' : List (Task σ α)) (s : σ) :
    finishAll (l ++ l') s =
      ((finishAll l s).1 ++ (finishAll l' (finishAll l s).2).1,
        (finishAll l' (finishAll l s).2).2) := by
  induction l generalizing s with
  | nil => rfl
  | cons t l ih =>
      rw [List.cons_append, finishAll, ih]
      rfl

theorem Task.finish_of_isDone {t : Task σ α} (h : t.isDone) :
    ∃ outcome, t.phase = .done outcome ∧ ∀ s, t.finish s = (outcome, s) := by
  unfold Task.isDone at h
  split at h
  · rename_i outcome hphase
    exact ⟨outcome, hphase, fun s => by rw [Task.finish, hphase]⟩
  · exact absurd h Bool.false_ne_true

/-- Tasks that have ended leave the state alone. -/
theorem finishAll_of_isDone {l : List (Task σ α)} (h : ∀ t ∈ l, t.isDone) :
    ∃ outcomes, l.map Task.phase = outcomes.map .done ∧ ∀ s, finishAll l s = (outcomes, s) := by
  induction l with
  | nil => exact ⟨[], rfl, fun _ => rfl⟩
  | cons t l ih =>
      obtain ⟨outcome, hphase, ht⟩ := Task.finish_of_isDone (h t List.mem_cons_self)
      obtain ⟨outcomes, hphases, hl⟩ := ih fun u hu => h u (List.mem_cons_of_mem _ hu)
      refine ⟨outcome :: outcomes, ?_, fun s => ?_⟩
      · rw [List.map_cons, hphase, hphases, List.map_cons]
      · rw [finishAll, ht, hl]

/-- Somebody else in the place of a task makes no difference if they finish alike. -/
theorem finishAll_split {before after : List (Task σ α)} {t u : Task σ α} {s s' : σ}
    (hbefore : ∀ t ∈ before, t.isDone) (h : t.finish s = u.finish s') :
    finishAll (before ++ t :: after) s = finishAll (before ++ u :: after) s' := by
  obtain ⟨outcomes, -, hdone⟩ := finishAll_of_isDone hbefore
  rw [finishAll_append, finishAll_append, hdone, hdone, finishAll, finishAll, h]

theorem finishAll_callNext (p : Pool σ α) (source : Option Text) (s : σ) :
    finishAll (p.callNext source).tasks s = finishAll p.tasks s := by
  obtain ⟨htasks, -⟩ | ⟨before, t, after, hsplit, -, -, hwaiting, -, htasks⟩ :=
    callNext_cases p source
  · rw [htasks]
  · have hfinish : ∀ s, ({ t with phase := .called } : Task σ α).finish s = t.finish s := by
      intro s
      unfold Task.isWaiting at hwaiting
      unfold Task.finish
      split at hwaiting
      · rename_i hphase
        rw [hphase]
      · exact nomatch hwaiting
    rw [htasks, hsplit, finishAll_append, finishAll_append, finishAll, finishAll, hfinish]

/-- A turn of the first task that is left changes nothing about how all will finish. -/
theorem finishAll_advance {p : Pool σ α} {before after : List (Task σ α)} {t : Task σ α}
    (hsplit : p.tasks = before ++ t :: after) (hbefore : ∀ t ∈ before, t.isDone) {r : Run σ α}
    (hr : r.complete = t.finish p.state) :
    finishAll (p.advance before.length r).tasks (p.advance before.length r).state =
      finishAll p.tasks p.state := by
  rw [hsplit]
  cases r with
  | finished outcome s =>
      rw [Pool.advance, callNext_state, finishAll_callNext,
        setPhase_tasks (p := { p with state := s }) hsplit]
      exact finishAll_split hbefore hr
  | asleep seconds s wake =>
      rw [Pool.advance, setPhase_tasks (p := { p with state := s }) hsplit]
      exact finishAll_split hbefore hr

/-- When all tasks are of one source, no turn changes how they will finish. -/
theorem Orderly.finishAll_resume {p : Pool σ α} (h : p.Orderly) {source : Text}
    (hsource : ∀ t ∈ p.tasks, t.source = some source) (i : Nat) :
    finishAll (p.resume i).tasks (p.resume i).state = finishAll p.tasks p.state := by
  obtain hstay | ⟨before, t, after, r, hsplit, -, hfirst, hr, hadvance⟩ := h.turn_cases i
  · rw [hstay]
  · have hsources : ∀ u ∈ before ++ t :: after, u.source = some source := hsplit ▸ hsource
    rw [hadvance]
    refine finishAll_advance hsplit (fun u hu => ?_) hr
    have hu' := hsources u (List.mem_append_left _ hu)
    exact hfirst u hu (hu' ▸ rfl) (hu'.trans (hsources t mem_split_self).symm)

/-- Another task of the source finishes after all that are there. -/
theorem finishAll_post {p : Pool σ α} {source : Text}
    (hsource : ∀ t ∈ p.tasks, t.source = some source) (start : Action σ α) :
    let p' := (p.post (some source) start).resume p.tasks.length
    let before := finishAll p.tasks p.state
    finishAll p'.tasks p'.state =
      (before.1 ++ [(start before.2).complete.1], (start before.2).complete.2) := by
  intro p' before
  have hsplit :
      (p.post (some source) start).tasks = p.tasks ++ ⟨some source, start, .fresh⟩ :: [] :=
    rfl
  have hposted : finishAll p'.tasks p'.state =
      finishAll (p.post (some source) start).tasks p.state := by
    simp only [p']
    rw [resume_post]
    by_cases hbusy : p.isBusy (some source)
    · rw [if_pos hbusy, setPhase_tasks hsplit, hsplit, finishAll_append, finishAll_append]
      rfl
    · rw [if_neg hbusy]
      refine finishAll_advance hsplit (fun t ht => ?_) rfl
      refine Classical.byContradiction fun hunfinished => hbusy ?_
      exact isBusy_iff.mpr ⟨rfl, t, ht, hsource t ht, hunfinished⟩
  rw [hposted, hsplit, finishAll_append]
  rfl

/-! ### What tasks are from their beginning -/

/-- The source of a task and what it does. -/
def Task.origin (t : Task σ α) : Option Text × Action σ α := (t.source, t.start)

theorem setPhase_origins (p : Pool σ α) (i : Nat) (phase : Phase σ α) :
    (p.setPhase i phase).tasks.map Task.origin = p.tasks.map Task.origin := by
  by_cases hi : i < p.tasks.length
  · obtain ⟨before, after, hsplit, rfl⟩ := exists_split (List.getElem?_eq_getElem hi)
    rw [setPhase_tasks hsplit, congrArg (List.map Task.origin) hsplit]
    simp only [List.map_append, List.map_cons, Task.origin]
  · rw [setPhase, List.modify_eq_self (Nat.le_of_not_lt hi)]

theorem advance_origins (p : Pool σ α) (i : Nat) (r : Run σ α) :
    (p.advance i r).tasks.map Task.origin = p.tasks.map Task.origin := by
  cases r with
  | asleep seconds s wake => exact setPhase_origins ..
  | finished outcome s =>
      rw [Pool.advance, callNext]
      split
      · rw [setPhase_origins, setPhase_origins]
      · rw [setPhase_origins]

theorem resume_origins (p : Pool σ α) (i : Nat) :
    (p.resume i).tasks.map Task.origin = p.tasks.map Task.origin := by
  obtain hstay | ⟨t, -, -, -, hwait⟩ | ⟨t, -, -, hstart⟩ | ⟨t, seconds, wake, -, -, hwake⟩ :=
    resume_cases p i
  · rw [hstay]
  · rw [hwait, setPhase_origins]
  · rw [hstart, advance_origins]
  · rw [hwake, advance_origins]

end Pool

/-! ### What is in progress in a session -/

/-- The task that begins when something happens: its source and what it does. -/
def Happening.begins : Happening → Option (Option Text × Action Engine Bool)
  | .post p => some (some p.source, Engine.offer p.event p.origin)
  | .ask op => some (none, op.action)
  | .turn _ => none

/-- The event that is posted when something happens. -/
def Happening.post? : Happening → Option Post
  | .post p => some p
  | .ask _ | .turn _ => none

/-- Nothing but an event of a source is posted, if anything begins. -/
def Happening.IsFrom (source : Text) : Happening → Prop
  | .post p => p.source = source
  | .ask _ => False
  | .turn _ => True

/-- The outcomes of events and the state they leave when each is posted after the one before
it has ended. -/
def oneAfterAnother (e : Engine) : List Post → List (Except Fault Bool) × Engine
  | [] => ([], e)
  | p :: rest =>
    let first := (Engine.offer p.event p.origin e).complete
    let others := oneAfterAnother first.2 rest
    (first.1 :: others.1, others.2)

theorem oneAfterAnother_concat (e : Engine) (posts : List Post) (p : Post) :
    let before := oneAfterAnother e posts
    let last := (Engine.offer p.event p.origin before.2).complete
    oneAfterAnother e (posts ++ [p]) = (before.1 ++ [last.1], last.2) := by
  induction posts generalizing e with
  | nil => rfl
  | cons q posts ih =>
      dsimp only [List.cons_append, oneAfterAnother] at ih ⊢
      rw [ih]

/-- Nothing changes the settings, as long as host-mode scripts keep to what they are offered. -/
def Conduct.settings : Conduct Engine where
  holds e := e.world.host.Keeps .offered
  leads e e' := e'.world = e.world ∧ e'.settings = e.settings
  refl _ := ⟨rfl, rfl⟩
  trans h h' := ⟨h'.1.trans h.1, h'.2.trans h.2⟩
  stable h hs := h.1 ▸ hs

theorem Engine.hosted_settings : Engine.Hosted .settings :=
  .of_keeps .offered (fun _ => trivial) (fun _ _ _ => ⟨⟨rfl, rfl⟩, trivial⟩) (fun he => he)
    (fun _ _ _ => ⟨⟨rfl, rfl⟩, trivial⟩) fun _ hreach => hreach.elim

theorem Engine.stepwise_settings : Engine.Stepwise .settings where
  hosted := hosted_settings
  aside _ haside := by cases haside <;> exact ⟨rfl, rfl⟩
  change _ _ := ⟨rfl, rfl⟩
  move _ _ _ _ := ⟨rfl, rfl⟩

theorem Engine.lawful_settings : Engine.Lawful .settings := stepwise_settings.lawful

section

variable {e : Engine} (hhost : e.world.host.Keeps .offered)
  (h : e.settings.serializeEvents = .ok true) (happenings : List Happening)

include hhost h

/-- A session goes on with serialized events. -/
theorem session_concat (x : Happening) :
    session e (happenings ++ [x]) =
      let p := session e happenings
      match x with
      | .post post =>
        (p.post (some post.source) (Engine.offer post.event post.origin)).resume p.tasks.length
      | .ask op => (p.post none op.action).resume p.tasks.length
      | .turn i => p.resume i := by
  have hsettings : (session e happenings).state.settings = e.settings :=
    (session_obeys Engine.lawful_settings hhost happenings).2.2
  rw [session_append, List.foldl_cons, List.foldl_nil]
  cases x with
  | post post =>
      rw [Pool.happen, Post.addTo, hsettings, h]
      rfl
  | ask op => rfl
  | turn i => rfl

theorem session_orderly : (session e happenings).Orderly := by
  induction happenings using List.reverseRecOn with
  | nil => exact Pool.orderly_empty e
  | append_singleton happenings x ih =>
      rw [session_concat hhost h]
      cases x with
      | post post => exact ih.post _ _
      | ask op => exact ih.post _ _
      | turn i => exact ih.resume i

theorem session_origins :
    (session e happenings).tasks.map Pool.Task.origin = happenings.filterMap Happening.begins := by
  induction happenings using List.reverseRecOn with
  | nil => rfl
  | append_singleton happenings x ih =>
      rw [session_concat hhost h, List.filterMap_append, ← ih]
      cases x with
      | post post => exact (Pool.resume_origins ..).trans (List.map_append ..)
      | ask op => exact (Pool.resume_origins ..).trans (List.map_append ..)
      | turn i =>
          refine (Pool.resume_origins ..).trans ?_
          simp [Happening.begins]

theorem session_source {source : Text} (hsource : ∀ x ∈ happenings, x.IsFrom source) :
    ∀ t ∈ (session e happenings).tasks, t.source = some source := by
  intro t ht
  have horigin := List.mem_map_of_mem (f := Pool.Task.origin) ht
  rw [session_origins hhost h] at horigin
  obtain ⟨x, hx, hbegins⟩ := List.mem_filterMap.mp horigin
  have hfrom := hsource x hx
  cases x with
  | post post =>
      have hpost : some post.source = t.source := congrArg Prod.fst (Option.some.inj hbegins)
      exact hpost.symm.trans (congrArg some hfrom)
  | ask op => exact hfrom.elim
  | turn i => exact nomatch hbegins

/-- Finishing what is in progress gives what the events give one after another. -/
theorem session_finishAll {source : Text} (hsource : ∀ x ∈ happenings, x.IsFrom source) :
    Pool.finishAll (session e happenings).tasks (session e happenings).state =
      oneAfterAnother e (happenings.filterMap Happening.post?) := by
  induction happenings using List.reverseRecOn with
  | nil => rfl
  | append_singleton happenings x ih =>
      have hbefore : ∀ x ∈ happenings, x.IsFrom source :=
        fun y hy => hsource y (List.mem_append_left _ hy)
      have hsources := session_source hhost h happenings hbefore
      rw [session_concat hhost h, List.filterMap_append]
      cases x with
      | post post =>
          obtain rfl : post.source = source :=
            hsource _ (List.mem_append_right _ List.mem_cons_self)
          refine (Pool.finishAll_post hsources _).trans ?_
          rw [ih hbefore]
          exact (oneAfterAnother_concat ..).symm
      | ask op => exact (hsource _ (List.mem_append_right _ List.mem_cons_self)).elim
      | turn i =>
          refine ((session_orderly hhost h happenings).finishAll_resume hsources i).trans ?_
          rw [ih hbefore, List.filterMap_cons_none rfl, List.filterMap_nil, List.append_nil]

end

/-- **Serialized events of one source never overlap and run in the order in which they were
posted**, as long as host-mode scripts keep to what they are offered.  A session holds a task for
everything that has begun, with its source; of two tasks of one source the later one is admitted
only after the earlier one has ended; and no order of turns can keep them from ending.  Events of
one source that are posted while others of it are in progress come out as they do when they are
posted one after another. -/
theorem session_serialized {e : Engine} (hhost : e.world.host.Keeps .offered)
    (h : e.settings.serializeEvents = .ok true) (happenings : List Happening) :
    let p := session e happenings
    p.tasks.map Pool.Task.origin = happenings.filterMap Happening.begins ∧
      p.tasks.Pairwise Pool.Task.Precedes ∧
      (∃ turns : List Nat,
        ∀ t ∈ (session e (happenings ++ turns.map Happening.turn)).tasks, t.isDone) ∧
      ∀ source, (∀ x ∈ happenings, x.IsFrom source) → (∀ t ∈ p.tasks, t.isDone) →
        let alone := oneAfterAnother e (happenings.filterMap Happening.post?)
        p.tasks.map Pool.Task.phase = alone.1.map .done ∧ p.state = alone.2 := by
  intro p
  have horderly := session_orderly hhost h happenings
  refine ⟨session_origins hhost h happenings, horderly.inOrder, ?_, fun source hsource hdone => ?_⟩
  · obtain ⟨turns, hdone⟩ := horderly.exists_turns
    refine ⟨turns, ?_⟩
    rw [session_append, List.foldl_map]
    exact hdone
  · intro alone
    have halone : Pool.finishAll p.tasks p.state = alone :=
      session_finishAll hhost h happenings hsource
    obtain ⟨outcomes, hphases, hfinish⟩ := Pool.finishAll_of_isDone hdone
    rw [hfinish] at halone
    exact ⟨halone ▸ hphases, congrArg Prod.snd halone⟩

/-- An engine on one card, which asks a question in the middle of what it does. -/
def Engine.asking : Engine :=
  let script : Text :=
    "on mouseUp\nput \"<\" after it\nanswer \"?\"\nput \">\" after it\nend mouseUp"
  .new (.assemble (.usual "s") [] [{ Card.usual "a" "A" with script }] 0 0)
    { hostMarker := none, repeatLimit := .null, ticksPerSecond := .null
      serializeEvents := .ok true, idleInterval := .ok .null, isServed := .ok false }
    { console := none, replies := [], failure := fun _ => none }
    (.still .bare fun _ => true)

/-- Two clicks at once, of which the second one has its turns while the first one is asking. -/
theorem session_serialized_asking :
    let click : Post := ⟨"mouseUp", none⟩
    let happenings : List Happening :=
      [.post click, .post click, .turn 1, .turn 0, .turn 1, .turn 1]
    let p := session .asking happenings
    Engine.asking.world.host.Keeps .offered ∧
      Engine.asking.settings.serializeEvents = .ok true ∧ (∀ x ∈ happenings, x.IsFrom "card") ∧
      (∀ t ∈ p.tasks, t.isDone) ∧ p.state = (oneAfterAnother .asking [click, click]).2 ∧
      p.state.registers.it = "<><>" := by
  intro click happenings p
  have hhost : Engine.asking.world.host.Keeps .offered := World.still_keeps_offered _ _
  have hserial : Engine.asking.settings.serializeEvents = .ok true := rfl
  have hfrom : ∀ x ∈ happenings, x.IsFrom "card" := by
    simp [happenings, click, Happening.IsFrom, Post.source]
  have hdone : ∀ t ∈ p.tasks, t.isDone := by
    have hall : p.tasks.all Pool.Task.isDone = true := by decide +kernel
    exact List.all_eq_true.mp hall
  have halone := (session_serialized hhost hserial happenings).2.2.2 "card" hfrom hdone
  exact ⟨hhost, hserial, hfrom, hdone, halone.2, by decide +kernel⟩

end CardTalk
