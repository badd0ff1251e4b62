/-
Everything that can happen to an engine, in any order.

A session is a list of happenings: an event is posted, an operation is asked for that waits
for nobody, or something in progress has a turn.  A posted event tries to take its source as
soon as it is posted, and has turns after that like everything else.  Nothing is assumed
about who has a turn when, so what holds after every session holds after every order in
which suspended handlers can go on.

A lawful conduct holds throughout a session: `session_obeys`.
-/
import CardTalk.Proofs.Conduct.Dispatch
import CardTalk.Engine.Post

namespace CardTalk

/-- What the engine can be asked for. -/
inductive Operation where
  | dispatch (event script : Text) (origin : Option Text)
  | offer (event : Text) (origin : Option Text)
  | goTo (destination : Value)
  | find (term : Text) (field : Option Text)
  | callHost (calls : List (Text × List Value))
  | execute (source : Text)
  | message (source : Text)
  | idleTick
  | start

/-- Carries out an operation. -/
def Operation.action : Operation → Action Engine Bool
  | dispatch event script origin => Engine.dispatch event script origin
  | offer event origin => Engine.offer event origin
  | goTo destination => do
    Engine.goTo destination
    return true
  | find term field => Engine.find term field
  | callHost calls => do
    let _ ← Engine.callHost calls
    return true
  | execute source => do
    Engine.execute source
    return true
  | message source => do
    let _ ← Engine.message source
    return true
  | idleTick => Engine.idleTick
  | start => Engine.start

/-- Something that happens to an engine. -/
inductive Happening where
  | post (p : Post)
  | ask (op : Operation)
  /-- What is in progress at a position has a turn. -/
  | turn (i : Nat)

/-- What becomes of everything in progress when something happens. -/
def Pool.happen (p : Pool Engine Bool) : Happening → Pool Engine Bool
  | .post post => (post.addTo p).resume p.tasks.length
  | .ask op => (p.post none op.action).resume p.tasks.length
  | .turn i => p.resume i

/-- An engine after a number of happenings, with what is then in progress. -/
def session (e : Engine) (happenings : List Happening) : Pool Engine Bool :=
  happenings.foldl Pool.happen (.empty e)

theorem session_append (e : Engine) (hs hs' : List Happening) :
    session e (hs ++ hs') = hs'.foldl Pool.happen (session e hs) := List.foldl_append ..

/-! ### Tasks of a pool -/

/-- The phase of a task that has come this far. -/
def Run.phase {σ α : Type} : Run σ α → Pool.Phase σ α
  | finished outcome _ => .done outcome
  | asleep seconds _ wake => .asleep seconds wake

namespace Pool

variable {σ α : Type} {c : Conduct σ}

theorem mem_setPhase {p : Pool σ α} {i : Nat} {phase : Phase σ α} {t : Task σ α}
    (ht : t ∈ (p.setPhase i phase).tasks) :
    ∃ t₀ ∈ p.tasks, t = t₀ ∨ t = { t₀ with phase } := by
  obtain ⟨k, hk⟩ := List.mem_iff_getElem?.mp ht
  rw [setPhase, List.getElem?_modify] at hk
  cases htask : p.tasks[k]? with
  | none => simp [htask] at hk
  | some t₀ =>
      refine ⟨t₀, List.mem_of_getElem? htask, ?_⟩
      simp only [htask, Option.map_eq_map, Option.map_some, Option.some.injEq] at hk
      split at hk
      · exact .inr hk.symm
      · exact .inl hk.symm

/-- What a turn is: nothing, or the task begins to wait for its source, or it goes on. -/
theorem resume_cases (p : Pool σ α) (i : Nat) :
    p.resume i = p ∨
    (∃ t, p.tasks[i]? = some t ∧ t.phase = .fresh ∧ p.isTaken i = true ∧
      p.resume i = p.setPhase i .waiting) ∨
    (∃ t, p.tasks[i]? = some t ∧
      (t.phase = .fresh ∧ p.isTaken i = false ∨ t.phase = .called) ∧
      p.resume i = p.advance i (t.start p.state)) ∨
    (∃ t seconds wake, p.tasks[i]? = some t ∧ t.phase = .asleep seconds wake ∧
      p.resume i = p.advance i (wake p.state)) := by
  unfold resume
  cases ht : p.tasks[i]? with
  | none => exact .inl rfl
  | some t =>
      dsimp only
      split
      · rename_i hfresh
        cases htaken : p.isTaken i with
        | true => exact .inr (.inl ⟨t, rfl, hfresh, rfl, rfl⟩)
        | false => exact .inr (.inr (.inl ⟨t, rfl, .inl ⟨hfresh, rfl⟩, rfl⟩))
      · rename_i hcalled
        exact .inr (.inr (.inl ⟨t, rfl, .inr hcalled, rfl⟩))
      · rename_i seconds wake hasleep
        exact .inr (.inr (.inr ⟨t, seconds, wake, rfl, hasleep, rfl⟩))
      · exact .inl rfl
      · exact .inl rfl

/-- The task at a position after another one has had a turn: it is as it was, or has been
called. -/
inductive Task.Stays (t : Task σ α) : Task σ α → Prop
  | same : Stays t t
  | called (h : t.phase = .waiting) : Stays t { t with phase := .called }

/-- A pool after the task at a position has come to a phase: everybody else stays. -/
structure Turned (p p' : Pool σ α) (i : Nat) (phase : Phase σ α) : Prop where
  length : p'.tasks.length = p.tasks.length
  self : ∀ {t}, p.tasks[i]? = some t → p'.tasks[i]? = some { t with phase }
  stays : ∀ {j t}, j ≠ i → p.tasks[j]? = some t → ∃ t', p'.tasks[j]? = some t' ∧ t.Stays t'

/-- Where a task comes from. -/
theorem Turned.of {p p' : Pool σ α} {i j : Nat} {phase : Phase σ α} (h : p.Turned p' i phase)
    {t' : Task σ α} (ht' : p'.tasks[j]? = some t') :
    ∃ t, p.tasks[j]? = some t ∧ (j = i ∧ t' = { t with phase } ∨ j ≠ i ∧ t.Stays t') := by
  have hlt : j < p.tasks.length := by
    rw [← h.length]
    exact (List.getElem?_eq_some_iff.mp ht').1
  have ht := List.getElem?_eq_getElem hlt
  refine ⟨_, ht, ?_⟩
  by_cases hj : j = i
  · subst hj
    exact .inl ⟨rfl, Option.some.inj (ht'.symm.trans (h.self ht))⟩
  · obtain ⟨t'', ht'', hstays⟩ := h.stays hj ht
    obtain rfl := Option.some.inj (ht'.symm.trans ht'')
    exact .inr ⟨hj, hstays⟩

theorem turned_setPhase (p : Pool σ α) (s : σ) (i : Nat) (phase : Phase σ α) :
    p.Turned ({ p with state := s }.setPhase i phase) i phase where
  length := List.length_modify ..
  self ht := (List.getElem?_modify_eq ..).trans (congrArg (Option.map _) ht)
  stays {_ t} hj ht := ⟨t, (List.getElem?_modify_ne _ _ hj.symm).trans ht, .same⟩

@[simp] theorem callNext_state (p : Pool σ α) (source : Option Text) :
    (p.callNext source).state = p.state := by
  unfold callNext
  split <;> rfl

/-- Calling the next one leaves everybody as he was but one who waits. -/
theorem callNext_stays (p : Pool σ α) (source : Option Text) :
    (p.callNext source).tasks.length = p.tasks.length ∧
      ∀ {j : Nat} {t : Task σ α}, p.tasks[j]? = some t →
        ∃ t', (p.callNext source).tasks[j]? = some t' ∧ t.Stays t' := by
  unfold callNext firstOf?
  split
  · rename_i i hfirst
    split at hfirst
    · obtain ⟨hlt, htest, -⟩ := List.findIdx?_eq_some_iff_getElem.mp hfirst
      have hwaiting : (p.tasks[i]).phase = .waiting := by
        have hwaits := (Bool.and_eq_true_iff.mp htest).2
        unfold Task.isWaiting at hwaits
        split at hwaits
        · assumption
        · exact nomatch hwaits
      have hturned := turned_setPhase p p.state i .called
      refine ⟨hturned.length, fun {j t} ht => ?_⟩
      by_cases hj : j = i
      · subst hj
        obtain rfl := Option.some.inj ((List.getElem?_eq_getElem hlt).symm.trans ht)
        exact ⟨_, hturned.self ht, .called hwaiting⟩
      · exact hturned.stays hj ht
    · exact nomatch hfirst
  · exact ⟨rfl, fun {j t} ht => ⟨t, ht, .same⟩⟩

@[simp] theorem advance_state (p : Pool σ α) (i : Nat) (r : Run σ α) :
    (p.advance i r).state = r.state := by
  cases r with
  | finished outcome s => exact callNext_state ..
  | asleep seconds s wake => rfl

theorem turned_advance (p : Pool σ α) (i : Nat) (r : Run σ α) :
    p.Turned (p.advance i r) i r.phase := by
  cases r with
  | asleep seconds s wake => exact turned_setPhase p s i _
  | finished outcome s =>
      have hdone := turned_setPhase p s i (.done outcome)
      obtain ⟨hlength, hcalls⟩ := callNext_stays ({ p with state := s }.setPhase i (.done outcome))
        (({ p with state := s }.setPhase i (.done outcome)).tasks[i]?.bind Task.source)
      refine ⟨hlength.trans hdone.length, fun {t} ht => ?_, fun {j t} hj ht => ?_⟩
      · obtain ⟨t', ht', hstays⟩ := hcalls (hdone.self ht)
        cases hstays with
        | same => exact ht'
        | called hwaiting => exact nomatch hwaiting
      · obtain ⟨t', ht', hstays⟩ := hdone.stays hj ht
        cases hstays with
        | same => exact hcalls ht'
        | called hwaiting =>
            obtain ⟨t'', ht'', hstays'⟩ := hcalls ht'
            cases hstays' with
            | same => exact ⟨_, ht'', .called hwaiting⟩
            | called hcalled => exact nomatch hcalled

/-! ### Pools that obey a conduct -/

/-- A suspended task goes on obediently from whatever the others leave it. -/
def Phase.Obeys (c : Conduct σ) (s : σ) : Phase σ α → Prop
  | .asleep _ wake => ∃ s₀, c.leads s₀ s ∧ ∀ s', c.leads s₀ s' → (wake s').Follows c s'
  | _ => True

/-- A task obeys the conduct, in a state of the pool. -/
structure Task.Obeys (c : Conduct σ) (s : σ) (t : Task σ α) : Prop where
  start : t.start.Follows c
  phase : t.phase.Obeys c s

/-- All that is in progress obeys the conduct. -/
structure Obeys (c : Conduct σ) (p : Pool σ α) : Prop where
  holds : c.holds p.state
  tasks : ∀ t ∈ p.tasks, t.Obeys c p.state

theorem Phase.Obeys.after {s s' : σ} {phase : Phase σ α} (h : phase.Obeys c s)
    (hle : c.leads s s') : phase.Obeys c s' := by
  cases phase with
  | asleep seconds wake =>
      obtain ⟨s₀, hs₀, hwake⟩ := h
      exact ⟨s₀, c.trans hs₀ hle, hwake⟩
  | fresh => trivial
  | waiting => trivial
  | called => trivial
  | done outcome => trivial

theorem Task.Stays.obeys {s s' : σ} {t t' : Task σ α} (h : t.Stays t') (ht : t.Obeys c s)
    (hle : c.leads s s') : t'.Obeys c s' := by
  cases h with
  | same => exact ⟨ht.start, ht.phase.after hle⟩
  | called => exact ⟨ht.start, trivial⟩

theorem Phase.Obeys.ofRun {s : σ} {r : Run σ α} (hs : c.holds s) (h : r.Follows c s) :
    r.phase.Obeys c r.state := by
  cases r with
  | finished outcome s' => trivial
  | asleep seconds s' wake => exact ⟨s', c.refl (c.stable h.1.1 hs), h.2⟩

theorem Obeys.withState {p : Pool σ α} (h : p.Obeys c) {s : σ} (hle : c.leads p.state s) :
    Obeys c { p with state := s } :=
  ⟨c.stable hle h.holds, fun t ht => ⟨(h.tasks t ht).start, (h.tasks t ht).phase.after hle⟩⟩

theorem Obeys.setPhase {p : Pool σ α} (h : p.Obeys c) (i : Nat) {phase : Phase σ α}
    (hphase : phase.Obeys c p.state) : (p.setPhase i phase).Obeys c := by
  refine ⟨h.holds, fun t ht => ?_⟩
  obtain ⟨t₀, ht₀, rfl | rfl⟩ := mem_setPhase ht
  · exact h.tasks t ht₀
  · exact ⟨(h.tasks t₀ ht₀).start, hphase⟩

theorem Obeys.callNext {p : Pool σ α} (h : p.Obeys c) (source : Option Text) :
    (p.callNext source).Obeys c := by
  unfold Pool.callNext
  split
  · exact h.setPhase _ trivial
  · exact h

/-- Letting a task run on keeps the conduct. -/
theorem Obeys.advance {p : Pool σ α} (h : p.Obeys c) (i : Nat) {r : Run σ α}
    (hr : r.Follows c p.state) :
    (p.advance i r).Obeys c ∧ c.leads p.state (p.advance i r).state := by
  cases r with
  | finished outcome s =>
      have hdone : (Phase.done outcome : Phase σ α).Obeys c s := trivial
      refine ⟨.callNext (.setPhase (h.withState hr.1) i hdone) _, ?_⟩
      rw [Pool.advance, callNext_state]
      exact hr.1
  | asleep seconds s wake =>
      have hself : c.leads s s := c.refl (c.stable hr.1.1 h.holds)
      exact ⟨.setPhase (h.withState hr.1.1) i ⟨s, hself, hr.2⟩, hr.1.1⟩

theorem Obeys.resume {p : Pool σ α} (h : p.Obeys c) (i : Nat) :
    (p.resume i).Obeys c ∧ c.leads p.state (p.resume i).state := by
  have hself : c.leads p.state p.state := c.refl h.holds
  obtain hstay | ⟨t, -, -, -, hwait⟩ | ⟨t, ht, -, hstart⟩ | ⟨t, seconds, wake, ht, hphase, hwake⟩ :=
    resume_cases p i
  · rw [hstay]
    exact ⟨h, hself⟩
  · rw [hwait]
    exact ⟨h.setPhase i (show Phase.waiting.Obeys c p.state from trivial), hself⟩
  · rw [hstart]
    exact h.advance i ((h.tasks t (List.mem_of_getElem? ht)).start.run h.holds)
  · rw [hwake]
    have hobeys := (h.tasks t (List.mem_of_getElem? ht)).phase
    rw [hphase] at hobeys
    obtain ⟨s₀, hs₀, hs₀wake⟩ := hobeys
    exact h.advance i (hs₀wake _ hs₀)

theorem Obeys.post {p : Pool σ α} (h : p.Obeys c) (source : Option Text) {start : Action σ α}
    (hstart : start.Follows c) : (p.post source start).Obeys c := by
  refine ⟨h.holds, fun t ht => ?_⟩
  rcases List.mem_append.mp ht with ht | ht
  · exact h.tasks t ht
  · rw [List.mem_singleton.mp ht]
    exact ⟨hstart, trivial⟩

theorem obeys_empty {s : σ} (hs : c.holds s) : (empty s : Pool σ α).Obeys c :=
  ⟨hs, by simp [empty]⟩

end Pool

/-! ### Sessions -/

/-- Every operation but the idle tick follows every fair conduct. -/
theorem Operation.action_fair {c : Conduct Engine} (hc : Engine.Fair c) (op : Operation)
    (hop : op ≠ .idleTick) : op.action.Follows c := by
  cases op with
  | dispatch event script origin => exact hc.dispatch ..
  | offer event origin => exact hc.offer ..
  | goTo destination => exact .bind (hc.goTo _) fun _ => .pure _
  | find term field => exact hc.find ..
  | callHost calls => exact .bind (hc.callHost _) fun _ => .pure _
  | execute source => exact .bind (hc.execute _) fun _ => .pure _
  | message source => exact .bind (hc.message _) fun _ => .pure _
  | idleTick => exact absurd rfl hop
  | start => exact hc.start

section

variable {c : Conduct Engine} (hc : Engine.Lawful c)

include hc

theorem Operation.action_follows (op : Operation) : op.action.Follows c := by
  by_cases hop : op = .idleTick
  · exact hop ▸ hc.idleTick
  · exact op.action_fair hc.fair hop

theorem addTo_obeys {p : Pool Engine Bool} (h : p.Obeys c) (post : Post) :
    (post.addTo p).Obeys c ∧ (post.addTo p).state = p.state := by
  unfold Post.addTo
  split
  · exact ⟨h.post _ (hc.fair.offer ..), rfl⟩
  · exact ⟨h.post _ (.fail _), rfl⟩

theorem happen_obeys {p : Pool Engine Bool} (h : p.Obeys c) (happening : Happening) :
    (p.happen happening).Obeys c ∧ c.leads p.state (p.happen happening).state := by
  cases happening with
  | post post =>
      obtain ⟨hobeys, hstate⟩ := addTo_obeys hc h post
      rw [← hstate]
      exact hobeys.resume _
  | ask op => exact (h.post _ (op.action_follows hc)).resume _
  | turn i => exact h.resume i

theorem happenings_obey :
    ∀ {p : Pool Engine Bool}, p.Obeys c → ∀ happenings : List Happening,
      (happenings.foldl Pool.happen p).Obeys c ∧
        c.leads p.state (happenings.foldl Pool.happen p).state := by
  intro p h happenings
  induction happenings generalizing p with
  | nil => exact ⟨h, c.refl h.holds⟩
  | cons happening rest ih =>
      obtain ⟨hobeys, hle⟩ := happen_obeys hc h happening
      obtain ⟨hobeys', hle'⟩ := ih hobeys
      exact ⟨hobeys', c.trans hle hle'⟩

/-- **A session keeps every lawful conduct.** -/
theorem session_obeys {e : Engine} (he : c.holds e) (happenings : List Happening) :
    (session e happenings).Obeys c ∧ c.leads e (session e happenings).state :=
  happenings_obey hc (Pool.obeys_empty he) happenings

end

end CardTalk
