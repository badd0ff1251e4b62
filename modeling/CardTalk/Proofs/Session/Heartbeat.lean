/-
The idle heartbeat never re-enters.

A tick is skipped while a pass is in progress, which the engine notes in a plain flag.  The
flag is right after whatever happened: nothing but a tick touches it (`Conduct.idling`) as long
as host-mode scripts keep to what they are offered, a tick sleeps only while its pass is in
progress and clears the flag wherever it ends (`Run.InPass`), and one that is stopped in its
sleep clears it as well.  So the flag has at most one holder, which is the invariant of everything
that can happen to a heartbeat (`Heartbeat.Held`), and a tick that comes finds it set exactly if
somebody holds it (`heartbeat_exclusive`).
-/
import CardTalk.Proofs.Session.Order
import CardTalk.Proofs.Host.Line
import Mathlib.Data.List.Induction

namespace CardTalk

/-! ### Who leaves the flag alone -/

/-- Whether a pass is in progress stays as it is while somebody goes on, and may change while
he sleeps.  The world around the engine is always the same. -/
def Conduct.idling (world : World) : Conduct Engine where
  holds e := e.world = world
  leads _ e' := e'.world = world
  refl h := h
  trans _ h' := h'
  stable h _ := h
  leaves e e' := e'.idling = e.idling
  leaves_refl _ := rfl
  leaves_trans h h' := h'.trans h

namespace Engine

section

variable {world : World}

theorem quiet_idling : Quiet (.idling world) where
  aside {e e'} he haside hidling := by
    have hworld : e'.world = e.world := by cases haside <;> rfl
    exact ⟨hworld.trans he, hidling⟩

theorem hosted_idling (hhost : world.host.Keeps .offered) : Hosted (.idling world) :=
  .of_keeps .offered (fun _ => trivial) (fun he _ _ => ⟨he, rfl⟩) (fun he => he ▸ hhost)
    (fun he _ _ => ⟨he, rfl⟩) fun _ hreach => hreach.elim

theorem fair_idling (hhost : world.host.Keeps .offered) : Fair (.idling world) where
  toQuiet := quiet_idling
  hosted := hosted_idling hhost
  change {e s} he _ :=
    have hdoes : (Conduct.idling world).Does e { e with scene := s } := ⟨he, rfl⟩
    .after hdoes (quiet_idling.notifyChanged.run hdoes.1)
  move {e e' destination i} back _ _ he' := by
    have hdoes : (Conduct.idling world).Does e' { e' with scene := e'.scene.moveTo i back } :=
      ⟨he', rfl⟩
    show ((moveTo i back e').bind fun _ => notifyChanged).Follows (.idling world) e'
    obtain hrun | ⟨-, -, hrun⟩ := moveTo_cases i back e'
    · rw [hrun]
      exact .after hdoes (quiet_idling.notifyChanged.run hdoes.1)
    · rw [hrun]
      exact hdoes

end

/-! ### One tick -/

/-- The run of a tick around the run of its pass: at the end no pass is in progress, and a
pass that has failed is logged. -/
def closePass : Run Engine Unit → Run Engine Bool
  | .finished (.ok ()) e => .finished (.ok true) { e with idling := false }
  | .finished (.error _) e =>
    let trace := .log .error "Idle pass failed" :: e.trace
    .finished (.ok true) { e with trace, idling := false }
  | .asleep seconds e wake => .asleep seconds e fun e' => closePass (wake e')

/-- A tick does nothing while a pass is in progress, and otherwise runs one. -/
theorem idleTick_eq (e : Engine) :
    idleTick e = if e.idling then .finished (.ok false) e
      else closePass (idlePass { e with idling := true }) := by
  show (if e.idling then Pure.pure false else _ : Action Engine Bool) e = _
  split
  · rfl
  · show (idlePass { e with idling := true }).attempt.bind _ = _
    generalize idlePass { e with idling := true } = r
    induction r with
    | finished outcome s => cases outcome <;> rfl
    | asleep seconds s wake ih => exact congrArg (Run.asleep seconds s) (funext ih)

end Engine

/-- The run of a tick whose pass is in progress whenever it sleeps, and not when it ends. -/
def Run.InPass (world : World) : Run Engine Bool → Prop
  | finished outcome e => e.world = world ∧ outcome = .ok true ∧ e.idling = false
  | asleep _ e wake => e.world = world ∧ e.idling = true ∧
      ∀ e', e'.world = world → e'.idling = true → InPass world (wake e')

theorem Engine.closePass_inPass {world : World} :
    ∀ {e : Engine} {r : Run Engine Unit}, r.Follows (.idling world) e → e.idling = true →
      (closePass r).InPass world := by
  intro e r
  induction r generalizing e with
  | finished outcome e' =>
      intro hr _
      cases outcome with
      | ok => exact ⟨hr.1, rfl, rfl⟩
      | error f => exact ⟨hr.1, rfl, rfl⟩
  | asleep seconds e' wake ih =>
      intro hr he
      exact ⟨hr.1.1, hr.1.2.trans he, fun e'' hworld he'' => ih e'' (hr.2 e'' hworld) he''⟩

theorem Engine.idlePass_inPass {world : World} (hhost : world.host.Keeps .offered) {e : Engine}
    (hworld : e.world = world) (he : e.idling = true) : (closePass (idlePass e)).InPass world :=
  closePass_inPass ((fair_idling hhost).idlePass.run hworld) he

/-! ### The heartbeat of an engine -/

/-- Everything in progress on an engine, with the positions of the idle ticks in it. -/
structure Heartbeat where
  pool : Pool Engine Bool
  ticks : List Nat

/-- Whether the task at a position of a pool sleeps. -/
def Pool.isAsleep {σ α : Type} (p : Pool σ α) (i : Nat) : Bool :=
  p.tasks[i]?.any fun t => t.phase matches .asleep ..

/-- Whether something that happens is a tick. -/
def Happening.isTick : Happening → Bool
  | .ask .idleTick => true
  | _ => false

namespace Heartbeat

/-- Something that happens to a heartbeat. -/
inductive Moment where
  | happens (x : Happening)
  /-- A tick is stopped where it sleeps, and ends with a fault. -/
  | stops (i : Nat) (f : Fault)

/-- The tick at a position is in its pass. -/
def InPass (h : Heartbeat) (i : Nat) : Prop := i ∈ h.ticks ∧ h.pool.isAsleep i

instance (h : Heartbeat) (i : Nat) : Decidable (h.InPass i) :=
  inferInstanceAs (Decidable (_ ∧ _))

/-- What becomes of a heartbeat.  A stopped tick clears the flag on its way out, as
`Agenda.turn` has it. -/
def next (h : Heartbeat) : Moment → Heartbeat
  | .happens x =>
    { pool := h.pool.happen x
      ticks := if x.isTick then h.ticks ++ [h.pool.tasks.length] else h.ticks }
  | .stops i f =>
    if h.InPass i then
      let state := { h.pool.state with idling := false }
      { h with pool := { h.pool with state }.setPhase i (.done (.error f)) }
    else h

end Heartbeat

/-- The heartbeat of an engine after a number of moments. -/
def heartbeat (e : Engine) (moments : List Heartbeat.Moment) : Heartbeat :=
  moments.foldl Heartbeat.next ⟨.empty e, []⟩

/-! ### Who holds the flag -/

/-- A task without a source runs as soon as it is posted. -/
theorem Pool.resume_post_none {σ α : Type} (p : Pool σ α) (start : Action σ α) :
    (p.post none start).resume p.tasks.length =
      ⟨(start p.state).state, p.tasks ++ [⟨none, start, (start p.state).phase⟩]⟩ := by
  have hbusy : ¬p.isBusy none := fun h => nomatch (isBusy_iff.mp h).1
  have htasks : (p.post none start).tasks = p.tasks ++ ⟨none, start, .fresh⟩ :: [] := rfl
  have hset := fun s phase =>
    setPhase_tasks (p := { p.post none start with state := s }) htasks phase
  rw [resume_post, if_neg hbusy]
  cases start p.state with
  | asleep seconds s wake => exact congrArg (Pool.mk s) (hset s _)
  | finished outcome s =>
      have hsource : ({ p.post none start with state := s }.setPhase p.tasks.length
          (.done outcome)).tasks[p.tasks.length]?.bind Pool.Task.source = none := by
        rw [hset, List.getElem?_concat_length]
        rfl
      rw [advance, hsource]
      exact congrArg (Pool.mk s) (hset s _)

namespace Heartbeat

variable {world : World}

/-- How far the tick at a position has come when the flag is held by the tick at another, if
by any: it sleeps in its pass if it is the holder, and has ended otherwise. -/
def HasCome (world : World) (holder : Option Nat) (i : Nat) : Pool.Phase Engine Bool → Prop
  | .asleep _ wake =>
    holder = some i ∧ ∀ e, e.world = world → e.idling = true → (wake e).InPass world
  | .done _ => holder ≠ some i
  | _ => False

theorem HasCome.congr {holder holder' : Option Nat} {i : Nat} {phase : Pool.Phase Engine Bool}
    (h : HasCome world holder i phase) (hiff : holder' = some i ↔ holder = some i) :
    HasCome world holder' i phase := by
  cases phase with
  | asleep seconds wake => exact ⟨hiff.mpr h.1, h.2⟩
  | done outcome => exact fun hi => h (hiff.mp hi)
  | fresh | waiting | called => exact h

theorem hasCome_of_stays {t t' : Pool.Task Engine Bool} (h : t.Stays t') {holder : Option Nat}
    {i : Nat} (hcome : HasCome world holder i t.phase) : HasCome world holder i t'.phase := by
  cases h with
  | same => exact hcome
  | called hwaiting =>
      rw [hwaiting] at hcome
      exact hcome.elim

/-- The flag is held by the tick at a position, or by nobody. -/
structure Held (h : Heartbeat) (world : World) (holder : Option Nat) : Prop where
  world_eq : h.pool.state.world = world
  flag : h.pool.state.idling = holder.isSome
  mem : ∀ i, holder = some i → i ∈ h.ticks
  ticks : ∀ i ∈ h.ticks, ∃ t, h.pool.tasks[i]? = some t ∧ HasCome world holder i t.phase
  others : ∀ i t, i ∉ h.ticks → h.pool.tasks[i]? = some t →
    t.Obeys (.idling world) h.pool.state

namespace Held

variable {h : Heartbeat} {holder : Option Nat}

theorem lt_of_mem (hh : h.Held world holder) {i : Nat} (hi : i ∈ h.ticks) :
    i < h.pool.tasks.length := by
  obtain ⟨t, ht, -⟩ := hh.ticks i hi
  exact (List.getElem?_eq_some_iff.mp ht).1

theorem inPass_iff (hh : h.Held world holder) {i : Nat} : h.InPass i ↔ holder = some i := by
  constructor
  · rintro ⟨hi, hasleep⟩
    obtain ⟨t, ht, hcome⟩ := hh.ticks i hi
    rw [Pool.isAsleep, ht, Option.any_some] at hasleep
    split at hasleep
    · rename_i hphase
      rw [hphase] at hcome
      exact hcome.1
    · exact nomatch hasleep
  · intro hholder
    have hi := hh.mem i hholder
    obtain ⟨t, ht, hcome⟩ := hh.ticks i hi
    refine ⟨hi, ?_⟩
    rw [Pool.isAsleep, ht, Option.any_some]
    cases hphase : t.phase with
    | asleep seconds wake => rfl
    | done outcome =>
        rw [hphase] at hcome
        exact absurd hholder hcome
    | fresh | waiting | called =>
        rw [hphase] at hcome
        exact hcome.elim

/-- Whoever else has a turn leaves the flag with its holder. -/
theorem turned_other (hh : h.Held world holder) {p : Pool Engine Bool} {i : Nat}
    {phase : Pool.Phase Engine Bool} (hp : h.pool.Turned p i phase) (hi : i ∉ h.ticks)
    (hdoes : (Conduct.idling world).Does h.pool.state p.state)
    (hphase : phase.Obeys (.idling world) p.state) :
    Held { h with pool := p } world holder where
  world_eq := hdoes.1
  flag := hdoes.2.trans hh.flag
  mem := hh.mem
  ticks j hj := by
    obtain ⟨t, ht, hcome⟩ := hh.ticks j hj
    have hji : j ≠ i := fun heq => hi (heq ▸ hj)
    obtain ⟨t', ht', hstays⟩ := hp.stays hji ht
    exact ⟨t', ht', hasCome_of_stays hstays hcome⟩
  others j t' hj ht' := by
    obtain ⟨t, ht, ⟨-, rfl⟩ | ⟨-, hstays⟩⟩ := hp.of ht'
    · exact ⟨(hh.others j t hj ht).start, hphase⟩
    · exact hstays.obeys (hh.others j t hj ht) hdoes.1

/-- The tick that holds the flag has a turn, and keeps it or gives it up. -/
theorem turned_holder {i : Nat} (hh : h.Held world (some i)) {p : Pool Engine Bool}
    {phase : Pool.Phase Engine Bool} (hp : h.pool.Turned p i phase)
    (hholder : ∀ j, holder = some j → j = i) (hworld : p.state.world = world)
    (hflag : p.state.idling = holder.isSome) (hphase : HasCome world holder i phase) :
    Held { h with pool := p } world holder where
  world_eq := hworld
  flag := hflag
  mem j hj := hholder j hj ▸ hh.mem i rfl
  ticks j hj := by
    obtain ⟨t, ht, hcome⟩ := hh.ticks j hj
    by_cases hji : j = i
    · subst hji
      exact ⟨_, hp.self ht, hphase⟩
    · obtain ⟨t', ht', hstays⟩ := hp.stays hji ht
      refine ⟨t', ht', hasCome_of_stays hstays ?_⟩
      cases hdone : t.phase with
      | done outcome => exact fun hj => hji (hholder j hj)
      | asleep seconds wake =>
          rw [hdone] at hcome
          exact absurd (Option.some.inj hcome.1).symm hji
      | fresh | waiting | called =>
          rw [hdone] at hcome
          exact hcome
  others j t' hj ht' := by
    obtain ⟨t, ht, ⟨rfl, -⟩ | ⟨-, hstays⟩⟩ := hp.of ht'
    · exact absurd (hh.mem j rfl) hj
    · exact hstays.obeys (hh.others j t hj ht) hworld

/-- The holder goes on with its pass. -/
theorem advance_holder {i : Nat} (hh : h.Held world (some i)) {r : Run Engine Bool}
    (hr : r.InPass world) :
    ∃ holder, Held { h with pool := h.pool.advance i r } world holder := by
  have hp := h.pool.turned_advance i r
  cases r with
  | finished outcome e =>
      obtain ⟨hworld, -, hflag⟩ := hr
      refine ⟨none, hh.turned_holder hp nofun ?_ ?_ nofun⟩ <;> rw [Pool.advance_state]
      · exact hworld
      · exact hflag
  | asleep seconds e wake =>
      obtain ⟨hworld, hflag, hwake⟩ := hr
      exact ⟨some i, hh.turned_holder hp (fun j hj => (Option.some.inj hj).symm) hworld hflag
        ⟨rfl, hwake⟩⟩

/-- Something else than a tick goes on. -/
theorem advance_other (hh : h.Held world holder) {i : Nat} (hi : i ∉ h.ticks) {r : Run Engine Bool}
    (hr : r.Follows (.idling world) h.pool.state) :
    Held { h with pool := h.pool.advance i r } world holder := by
  refine hh.turned_other (h.pool.turned_advance i r) hi ?_ ?_ <;> rw [Pool.advance_state]
  · exact hr.does
  · exact .ofRun hh.world_eq hr

/-- **Anybody has a turn.** -/
theorem resume (hh : h.Held world holder) (i : Nat) :
    ∃ holder, Held { h with pool := h.pool.resume i } world holder := by
  have hother : ∀ {t}, h.pool.tasks[i]? = some t → (∀ holder, ¬HasCome world holder i t.phase) →
      i ∉ h.ticks := by
    intro t ht hnot hi
    obtain ⟨t', ht', hcome⟩ := hh.ticks i hi
    obtain rfl := Option.some.inj (ht.symm.trans ht')
    exact hnot holder hcome
  obtain hstay | ⟨t, ht, hfresh, -, hwait⟩ | ⟨t, ht, hbegins, hstart⟩ |
    ⟨t, seconds, wake, ht, hasleep, hwake⟩ := h.pool.resume_cases i
  · rw [hstay]
    exact ⟨holder, hh⟩
  · have hi := hother ht fun _ hcome => by rw [hfresh] at hcome; exact hcome
    rw [hwait]
    have hturned := h.pool.turned_setPhase h.pool.state i .waiting
    exact ⟨holder, hh.turned_other hturned hi (Conduct.does_refl hh.world_eq) trivial⟩
  · have hi := hother ht fun _ hcome => by
      rcases hbegins with ⟨hphase, -⟩ | hphase <;> rw [hphase] at hcome <;> exact hcome
    rw [hstart]
    exact ⟨holder, hh.advance_other hi ((hh.others i t hi ht).start.run hh.world_eq)⟩
  · rw [hwake]
    by_cases hi : i ∈ h.ticks
    · obtain ⟨t', ht', hcome⟩ := hh.ticks i hi
      obtain rfl := Option.some.inj (ht.symm.trans ht')
      rw [hasleep] at hcome
      obtain ⟨rfl, hpass⟩ := hcome
      exact hh.advance_holder (hpass _ hh.world_eq hh.flag)
    · have hphase := (hh.others i t hi ht).phase
      rw [hasleep] at hphase
      obtain ⟨e, -, hfollows⟩ := hphase
      exact ⟨holder, hh.advance_other hi (hfollows _ hh.world_eq)⟩

/-- Something else than a tick is posted. -/
theorem post (hh : h.Held world holder) (source : Option Text) {start : Action Engine Bool}
    (hstart : start.Follows (.idling world)) :
    Held { h with pool := h.pool.post source start } world holder where
  world_eq := hh.world_eq
  flag := hh.flag
  mem := hh.mem
  ticks i hi := by
    obtain ⟨t, ht, hcome⟩ := hh.ticks i hi
    exact ⟨t, (List.getElem?_append_left (hh.lt_of_mem hi)).trans ht, hcome⟩
  others i t hi ht := by
    obtain hlt | hge := Nat.lt_or_ge i h.pool.tasks.length
    · exact hh.others i t hi ((List.getElem?_append_left hlt).symm.trans ht)
    · have hmem := List.mem_of_getElem? ((List.getElem?_append_right hge).symm.trans ht)
      rw [List.mem_singleton.mp hmem]
      exact ⟨hstart, trivial⟩

/-- A tick is added that has run so far. -/
theorem tick (hh : h.Held world holder) {holder' : Option Nat} {r : Run Engine Bool}
    (hworld : r.state.world = world) (hflag : r.state.idling = holder'.isSome)
    (hsame : ∀ i ∈ h.ticks, holder' = some i ↔ holder = some i)
    (hmem : ∀ i, holder' = some i → i ∈ h.ticks ∨ i = h.pool.tasks.length)
    (hphase : HasCome world holder' h.pool.tasks.length r.phase) :
    Held ⟨⟨r.state, h.pool.tasks ++ [⟨none, Engine.idleTick, r.phase⟩]⟩,
      h.ticks ++ [h.pool.tasks.length]⟩ world holder' where
  world_eq := hworld
  flag := hflag
  mem i hi := List.mem_append.mpr ((hmem i hi).imp id List.mem_singleton.mpr)
  ticks i hi := by
    rcases List.mem_append.mp hi with hi | hi
    · obtain ⟨t, ht, hcome⟩ := hh.ticks i hi
      refine ⟨t, (List.getElem?_append_left (hh.lt_of_mem hi)).trans ht, ?_⟩
      exact hcome.congr (hsame i hi)
    · obtain rfl := List.mem_singleton.mp hi
      exact ⟨_, List.getElem?_concat_length, hphase⟩
  others i t hi ht := by
    rw [List.mem_append, not_or, List.mem_singleton] at hi
    have hlt : i < h.pool.tasks.length := by
      have := (List.getElem?_eq_some_iff.mp ht).1
      rw [List.length_append, List.length_singleton] at this
      omega
    have hother := hh.others i t hi.1 ((List.getElem?_append_left hlt).symm.trans ht)
    exact ⟨hother.start, hother.phase.after hworld⟩

end Held

/-- A tick is added as it has run so far. -/
theorem next_tick (h : Heartbeat) :
    let r := Engine.idleTick h.pool.state
    h.next (.happens (.ask .idleTick)) =
      ⟨⟨r.state, h.pool.tasks ++ [⟨none, Engine.idleTick, r.phase⟩]⟩,
        h.ticks ++ [h.pool.tasks.length]⟩ :=
  congrArg (Heartbeat.mk · (h.ticks ++ [h.pool.tasks.length])) (h.pool.resume_post_none _)

namespace Held

variable {h : Heartbeat} {holder : Option Nat} (hhost : world.host.Keeps .offered)

include hhost

theorem next_tick (hh : h.Held world holder) :
    ∃ holder, (h.next (.happens (.ask .idleTick))).Held world holder := by
  rw [Heartbeat.next_tick, Engine.idleTick_eq]
  cases holder with
  | some i =>
      have hi := hh.lt_of_mem (hh.mem i rfl)
      have hflag : h.pool.state.idling = true := hh.flag
      rw [if_pos hflag]
      exact ⟨some i, hh.tick hh.world_eq hflag (fun _ _ => .rfl) (fun j hj => .inl (hh.mem j hj))
        fun heq => Nat.ne_of_lt hi (Option.some.inj heq)⟩
  | none =>
      have hflag : ¬h.pool.state.idling = true := by simp [hh.flag]
      have hpass := Engine.idlePass_inPass hhost (e := { h.pool.state with idling := true })
        hh.world_eq rfl
      rw [if_neg hflag]
      cases hr : Engine.closePass (Engine.idlePass { h.pool.state with idling := true }) with
      | finished outcome e =>
          rw [hr] at hpass
          exact ⟨none, hh.tick hpass.1 hpass.2.2 (fun _ _ => .rfl) nofun nofun⟩
      | asleep seconds e wake =>
          rw [hr] at hpass
          refine ⟨some h.pool.tasks.length,
            hh.tick hpass.1 hpass.2.1 (fun i hi => ?_) ?_ ⟨rfl, hpass.2.2⟩⟩
          · have hlt := hh.lt_of_mem hi
            exact ⟨fun heq => absurd (Option.some.inj heq) (Nat.ne_of_gt hlt), nofun⟩
          · exact fun i hi => .inr (Option.some.inj hi).symm

/-- Whatever happens, the flag has at most one holder after it. -/
theorem next (hh : h.Held world holder) (m : Moment) :
    ∃ holder, (h.next m).Held world holder := by
  cases m with
  | stops i f =>
      show ∃ holder, Held (if h.InPass i then _ else h) world holder
      by_cases hpass : h.InPass i
      · obtain rfl := hh.inPass_iff.mp hpass
        rw [if_pos hpass]
        have hturned := h.pool.turned_setPhase { h.pool.state with idling := false } i
          (.done (.error f))
        exact ⟨none, hh.turned_holder hturned nofun hh.world_eq rfl nofun⟩
      · rw [if_neg hpass]
        exact ⟨holder, hh⟩
  | happens x =>
      cases x with
      | turn i => exact hh.resume i
      | post p =>
          have hadd : ∃ start : Action Engine Bool, ∃ source, start.Follows (.idling world) ∧
              p.addTo h.pool = h.pool.post source start := by
            unfold Post.addTo
            split
            · exact ⟨_, _, (Engine.fair_idling hhost).offer .., rfl⟩
            · exact ⟨_, _, .fail _, rfl⟩
          obtain ⟨start, source, hstart, hadd⟩ := hadd
          have hposted := (hh.post source hstart).resume h.pool.tasks.length
          rwa [← hadd] at hposted
      | ask op =>
          by_cases hop : op = .idleTick
          · exact hop ▸ hh.next_tick hhost
          · have hposted := (hh.post none (op.action_fair (Engine.fair_idling hhost) hop)).resume
              h.pool.tasks.length
            have htick : (Happening.ask op).isTick = false := by
              unfold Happening.isTick
              split
              · rename_i heq
                exact absurd (Happening.ask.inj heq) hop
              · rfl
            have hnext : h.next (.happens (.ask op)) =
                { h with pool := (h.pool.post none op.action).resume h.pool.tasks.length } := by
              rw [Heartbeat.next, htick]
              rfl
            rwa [hnext]

end Held

end Heartbeat

theorem heartbeat_held {e : Engine} (hhost : e.world.host.Keeps .offered) (he : e.idling = false)
    (moments : List Heartbeat.Moment) :
    ∃ holder, (heartbeat e moments).Held e.world holder := by
  induction moments using List.reverseRecOn with
  | nil => exact ⟨none, rfl, he, nofun, nofun, nofun⟩
  | append_singleton moments m ih =>
      obtain ⟨holder, hh⟩ := ih
      rw [heartbeat, List.foldl_append]
      exact hh.next hhost m

/-- **After whatever has happened to a heartbeat, at most one tick is in its pass, and every
other one has ended.  While one is, another tick gives false at once and changes nothing; once
it has ended, with its pass run to the end, failed or stopped, the next tick runs a pass.**
Posted events, operations and ticks sleep and go on in any order, and the presenter may fail
at any time; only host-mode scripts have to keep to what they are offered. -/
theorem heartbeat_exclusive (e : Engine) (hhost : e.world.host.Keeps .offered)
    (he : e.idling = false) (moments : List Heartbeat.Moment) :
    let h := heartbeat e moments
    let added : Engine → Pool.Phase Engine Bool → Heartbeat := fun e phase =>
      ⟨⟨e, h.pool.tasks ++ [⟨none, Engine.idleTick, phase⟩]⟩, h.ticks ++ [h.pool.tasks.length]⟩
    let pass := Engine.closePass (Engine.idlePass { h.pool.state with idling := true })
    (∀ i j, h.InPass i → h.InPass j → i = j) ∧
      (∀ i ∈ h.ticks, ¬h.InPass i → (h.pool.outcome? i).isSome) ∧
      ((∃ i, h.InPass i) →
        h.next (.happens (.ask .idleTick)) = added h.pool.state (.done (.ok false))) ∧
      ((¬∃ i, h.InPass i) →
        h.next (.happens (.ask .idleTick)) = added pass.state pass.phase) := by
  intro h added pass
  obtain ⟨holder, hh⟩ := heartbeat_held hhost he moments
  have htick := h.next_tick
  rw [Engine.idleTick_eq] at htick
  refine ⟨fun i j hi hj => ?_, fun i hi hout => ?_, ?_, fun hnone => ?_⟩
  · have heq := (hh.inPass_iff.mp hi).symm.trans (hh.inPass_iff.mp hj)
    exact Option.some.inj heq
  · obtain ⟨t, ht, hcome⟩ := hh.ticks i hi
    rw [Pool.outcome?, ht, Option.map_some]
    cases hphase : t.phase with
    | done outcome => rfl
    | asleep seconds wake =>
        rw [hphase] at hcome
        exact absurd (hh.inPass_iff.mpr hcome.1) hout
    | fresh | waiting | called =>
        rw [hphase] at hcome
        exact hcome.elim
  · rintro ⟨i, hi⟩
    have hflag : h.pool.state.idling = true := by rw [hh.flag, hh.inPass_iff.mp hi]; rfl
    rwa [if_pos hflag] at htick
  · have hflag : ¬h.pool.state.idling = true := by
      rw [hh.flag]
      cases holder with
      | none => exact nofun
      | some i => exact absurd ⟨i, hh.inPass_iff.mpr rfl⟩ hnone
    rwa [if_neg hflag] at htick

/-- An engine on one card, which asks a question whenever the engine is idle. -/
def Engine.restless : Engine :=
  let script : Text := "on idle\nanswer \"?\"\nend idle"
  .new (.assemble (.usual "s") [] [{ Card.usual "a" "A" with script }] 0 0)
    { hostMarker := none, repeatLimit := .null, ticksPerSecond := .null
      serializeEvents := .ok true, idleInterval := .ok .null, isServed := .ok false }
    { console := none, replies := [], failure := fun _ => none }
    (.still .bare fun _ => true)

/-- A second tick while the question of the first one is open, and a third one after the first
one has been stopped. -/
theorem heartbeat_exclusive_restless :
    let tick : Heartbeat.Moment := .happens (.ask .idleTick)
    let first := heartbeat .restless [tick]
    let stopped := heartbeat .restless [tick, tick, .stops 0 .nestedTooDeep]
    Engine.restless.world.host.Keeps .offered ∧ Engine.restless.idling = false ∧ first.InPass 0 ∧
      (first.next tick).pool.state = first.pool.state ∧
      (first.next tick).pool.outcome? 1 = some (.ok false) ∧
      (¬∃ i, stopped.InPass i) ∧ (stopped.next tick).InPass 2 ∧
      (stopped.next tick).pool.state = (Engine.closePass
        (Engine.idlePass { stopped.pool.state with idling := true })).state := by
  intro tick first stopped
  have hhost : Engine.restless.world.host.Keeps .offered := World.still_keeps_offered _ _
  have hfirst : first.InPass 0 := by decide +kernel
  have hticks : stopped.ticks = [0, 1] := by decide +kernel
  have hstopped : ¬∃ i, stopped.InPass i := by
    rintro ⟨i, hi, hasleep⟩
    rw [hticks] at hi
    have hawake : ∀ i ∈ [0, 1], ¬stopped.pool.isAsleep i := by decide +kernel
    exact hawake i hi hasleep
  have hstate : ∀ {h : Heartbeat} {e tasks ticks}, h = ⟨⟨e, tasks⟩, ticks⟩ → h.pool.state = e := by
    rintro h e tasks ticks rfl
    rfl
  obtain ⟨-, -, hskip, -⟩ := heartbeat_exclusive .restless hhost rfl [tick]
  obtain ⟨-, -, -, hpass⟩ :=
    heartbeat_exclusive .restless hhost rfl [tick, tick, .stops 0 .nestedTooDeep]
  have hskipped : (first.next tick).pool.state = first.pool.state := hstate (hskip ⟨0, hfirst⟩)
  refine ⟨hhost, rfl, hfirst, hskipped, by decide +kernel, hstopped, by decide +kernel, ?_⟩
  rw [hstate (hpass hstopped)]

end CardTalk
