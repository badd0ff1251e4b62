/-
Which faults a run can end with.

As long as whoever goes on finds a state of a certain kind and leaves one, a run may be known to
fail with certain faults only (`Run.Confined`).  An action is confined so as soon as its parts
are, and one whose faults are caught fails with none of them, whatever goes wrong inside.

For the engine that kind of state is one with given settings whose presenter never fails and
whose host-mode scripts keep to what they are offered (`Engine.Reliable`).  All that can go wrong
in its calls to the outside is then that there is no card to show, and a dispatch does not fail at
all, however deeply it is nested (`Engine.dispatch_confined`).
-/
import CardTalk.Proofs.Conduct.Dispatch
import CardTalk.Proofs.Engine.Outside
import CardTalk.Proofs.Fault
import CardTalk.Proofs.Run

namespace CardTalk

namespace Run

variable {σ τ α β : Type} {holds : σ → Prop} {faults faults' : Fault → Prop}

/-- Whenever the run stops it leaves a state of a kind, as long as it finds one when it goes on,
and it fails with certain faults only. -/
def Confined (holds : σ → Prop) (faults : Fault → Prop) : Run σ α → Prop
  | finished outcome s => holds s ∧ FailsIn faults outcome
  | asleep _ s wake => holds s ∧ ∀ s', holds s' → Confined holds faults (wake s')

theorem Confined.bind {next : α → Action σ β} :
    ∀ {r : Run σ α}, r.Confined holds faults →
      (∀ a s, holds s → (next a s).Confined holds faults) →
      (r.bind next).Confined holds faults
  | finished (.ok a) s, hr, hnext => hnext a s hr.1
  | finished (.error _) _, hr, _ => ⟨hr.1, .error (hr.2.fault rfl)⟩
  | asleep _ _ _, hr, hnext => ⟨hr.1, fun s' hs' => (hr.2 s' hs').bind hnext⟩

theorem Confined.attempt :
    ∀ {r : Run σ α}, r.Confined holds faults → r.attempt.Confined holds faults'
  | finished _ _, hr => ⟨hr.1, .ok _⟩
  | asleep _ _ _, hr => ⟨hr.1, fun s' hs' => (hr.2 s' hs').attempt⟩

theorem Confined.beside :
    ∀ {r : Run σ α} (t : τ), r.Confined holds faults →
      (r.beside t).Confined (fun s => holds s.1) faults
  | finished _ _, _, hr => hr
  | asleep _ _ _, _, hr => ⟨hr.1, fun s' hs' => (hr.2 s'.1 hs').beside s'.2⟩

theorem Confined.hide :
    ∀ {r : Run (σ × τ) α}, r.Confined (fun s => holds s.1) faults →
      r.hide.Confined holds faults
  | finished _ _, hr => hr
  | asleep _ s _, hr => ⟨hr.1, fun s' hs' => (hr.2 (s', s.2) hs').hide⟩

/-- How a confined run ends, among others who keep to such states. -/
theorem Confined.reaches {others : σ → σ → Prop} {outcome : Except Fault α} {t : σ} {r : Run σ α}
    (h : r.Reaches others outcome t) (hothers : ∀ s s', others s s' → holds s → holds s')
    (hr : r.Confined holds faults) : holds t ∧ FailsIn faults outcome := by
  induction h with
  | finished => exact hr
  | asleep hs' _ ih => exact ih (hr.2 _ (hothers _ _ hs' hr.1))

end Run

/-- Everyone leaves a state of a kind who finds one. -/
def Conduct.keeping {σ : Type} (holds : σ → Prop) : Conduct σ where
  holds := holds
  leads s t := holds s → holds t
  refl _ h := h
  trans h h' hs := h' (h hs)
  stable h := h

/-- Who keeps to a conduct of that sort is confined, whatever may go wrong. -/
theorem Run.Follows.confined {σ α : Type} {holds : σ → Prop} {s : σ} {r : Run σ α} (hs : holds s)
    (h : r.Follows (.keeping holds) s) : r.Confined holds fun _ => True := by
  induction r generalizing s with
  | finished outcome s' => exact ⟨h.1 hs, ⟨fun _ => trivial⟩⟩
  | asleep seconds s' wake ih =>
      exact ⟨h.1.1 hs, fun s'' hs'' => ih s'' hs'' (h.2 s'' fun _ => hs'')⟩

namespace Action

variable {σ τ α β : Type} {holds : σ → Prop} {faults faults' : Fault → Prop}

/-- The action is confined from every state of the kind. -/
structure Confined (holds : σ → Prop) (faults : Fault → Prop) (m : Action σ α) : Prop where
  run : ∀ {s}, holds s → (m s).Confined holds faults

theorem Follows.confined {m : Action σ α} (h : m.Follows (.keeping holds)) :
    m.Confined holds fun _ => True :=
  ⟨fun hs => (h.run hs).confined hs⟩

namespace Confined

theorem pure (a : α) : (Pure.pure a : Action σ α).Confined holds faults :=
  ⟨fun hs => ⟨hs, .ok a⟩⟩

theorem fail {f : Fault} (h : faults f) : (Action.fail f : Action σ α).Confined holds faults :=
  ⟨fun hs => ⟨hs, .error h⟩⟩

theorem ofExcept {outcome : Except Fault α} (h : FailsIn faults outcome) :
    (liftM outcome : Action σ α).Confined holds faults :=
  ⟨fun hs => ⟨hs, h⟩⟩

theorem get : (MonadState.get : Action σ σ).Confined holds faults := ⟨fun hs => ⟨hs, .ok _⟩⟩

theorem modify {f : σ → σ} (h : ∀ {s}, holds s → holds (f s)) :
    (modify f : Action σ PUnit).Confined holds faults :=
  ⟨fun hs => ⟨h hs, .ok _⟩⟩

theorem sleep (seconds : Float) : (Action.sleep seconds : Action σ Unit).Confined holds faults :=
  ⟨fun hs => ⟨hs, fun _ hs' => ⟨hs', .ok _⟩⟩⟩

theorem bind {m : Action σ α} {next : α → Action σ β} (hm : m.Confined holds faults)
    (hnext : ∀ a, (next a).Confined holds faults) : (m >>= next).Confined holds faults :=
  ⟨fun hs => (hm.run hs).bind fun a _ ht => (hnext a).run ht⟩

/-- What follows on a lookup may rely on how it came out. -/
theorem ofExcept_bind {outcome : Except Fault α} {next : α → Action σ β}
    (h : FailsIn faults outcome)
    (hnext : ∀ a, outcome = .ok a → (next a).Confined holds faults) :
    (liftM outcome >>= next : Action σ β).Confined holds faults := by
  cases outcome with
  | ok a => exact ⟨fun hs => (hnext a rfl).run hs⟩
  | error f => exact .fail (h.fault rfl)

/-- An action that begins by looking at the state may rely on what it has seen. -/
theorem get_bind {next : σ → Action σ β}
    (h : ∀ {s}, holds s → (next s s).Confined holds faults) :
    (MonadState.get >>= next).Confined holds faults := ⟨h⟩

theorem attempt {m : Action σ α} (hm : m.Confined holds faults) :
    m.attempt.Confined holds faults' :=
  ⟨fun hs => (hm.run hs).attempt⟩

theorem beside {m : Action σ α} (hm : m.Confined holds faults) :
    (liftM m : Action (σ × τ) α).Confined (fun s => holds s.1) faults :=
  ⟨fun {s} hs => (hm.run hs).beside s.2⟩

theorem within {m : Action (σ × τ) α} (t : τ) (hm : m.Confined (fun s => holds s.1) faults) :
    (Action.within t m).Confined holds faults :=
  ⟨fun hs => .hide (hm.run (s := (_, t)) hs)⟩

theorem ite {p : Prop} [Decidable p] {m n : Action σ α} (hm : m.Confined holds faults)
    (hn : n.Confined holds faults) : (if p then m else n).Confined holds faults := by
  split
  · exact hm
  · exact hn

theorem times {m : Action σ Unit} (hm : m.Confined holds faults) :
    ∀ n, (m.times n).Confined holds faults
  | 0 => .pure ()
  | n + 1 => .bind hm fun _ => times hm n

theorem forM {m : α → Action σ PUnit} (hm : ∀ a, (m a).Confined holds faults) :
    ∀ l : List α, (l.forM m).Confined holds faults
  | [] => .pure PUnit.unit
  | a :: l => .bind (hm a) fun _ => forM hm l

end Confined

end Action

namespace Engine

/-- The engine has these settings, a presenter that never fails, and host-mode scripts that keep
to what they are offered. -/
structure Reliable (settings : Settings) (e : Engine) : Prop where
  steadfast : e.presenter.Steadfast
  settings : e.settings = settings
  host : e.world.host.Keeps .offered

variable {settings : Settings} {faults : Fault → Prop}

/-! ### Calls that reach outside -/

theorem hosted_reliable (settings : Settings) : Hosted (.keeping (Reliable settings)) :=
  .of_keeps .offered (fun _ => trivial)
    (fun _ _ _ => ⟨fun he => ⟨he.steadfast, he.settings, he.host⟩, trivial⟩)
    (fun he => he.host) (fun _ _ _ => ⟨fun he => ⟨he.steadfast, he.settings, he.host⟩, trivial⟩)
    fun _ hreach => hreach.elim

theorem stepwise_reliable (settings : Settings) : Stepwise (.keeping (Reliable settings)) where
  hosted := hosted_reliable settings
  aside _ h he := by
    cases h <;> exact ⟨he.steadfast, he.settings, he.host⟩
  change _ _ he := ⟨he.steadfast, he.settings, he.host⟩
  move _ _ _ _ he := ⟨he.steadfast, he.settings, he.host⟩

theorem modify_confined {f : Engine → Engine}
    (h : ∀ e, (f e).presenter.failure = e.presenter.failure ∧ (f e).settings = e.settings ∧
      (f e).world = e.world) :
    (modify f : Action Engine PUnit).Confined (Reliable settings) faults := by
  refine .modify fun {e} he => ?_
  obtain ⟨hfailure, hsettings, hworld⟩ := h e
  exact ⟨fun events => hfailure ▸ he.steadfast events, hsettings.trans he.settings,
    hworld ▸ he.host⟩

theorem record_confined (x : Event) : (record x).Confined (Reliable settings) faults :=
  modify_confined fun _ => ⟨rfl, rfl, rfl⟩

theorem call_confined (x : Event) : (call x).Confined (Reliable settings) faults := by
  refine .bind (record_confined x) fun _ => .get_bind fun {e} he => ?_
  rw [he.steadfast]
  exact ⟨he, .ok ()⟩

theorem onConsole_confined (f : Console → Console) :
    (onConsole f).Confined (Reliable settings) faults :=
  modify_confined fun _ => ⟨rfl, rfl, rfl⟩

theorem await_confined : await.Confined (Reliable settings) faults :=
  .bind .get fun _ => .ite (.sleep 0) (.pure _)

theorem alert_confined (title message : Text) :
    (alert title message).Confined (Reliable settings) faults :=
  .bind (call_confined _) fun _ => .bind (onConsole_confined _) fun _ => await_confined

theorem beep_confined : beep.Confined (Reliable settings) faults := by
  have hsound : (do call .beep; onConsole fun c => c.write ['\x07'] : Action Engine Unit).Confined
      (Reliable settings) faults :=
    .bind (call_confined _) fun _ => onConsole_confined _
  exact .bind hsound.attempt fun _ => .pure _

/-! ### Dispatch -/

theorem reportFailure_confined (event : Text) (origin : Option Text) (f : Fault) :
    (reportFailure event origin f).Confined (Reliable settings) faults :=
  .bind (record_confined _) fun _ => .bind beep_confined fun _ => alert_confined ..

/-- A dispatch does not fail, whatever becomes of its script. -/
theorem dispatchAt_confined (depth : Nat) (event script : Text) (origin : Option Text) :
    (dispatchAt (depth + 1) event script origin).Confined (Reliable settings) faults := by
  have hfair := (stepwise_reliable settings).lawful.fair
  have hscript : (runScript (dispatchAt depth) script event origin).Confined (Reliable settings)
      fun _ => True := (hfair.runScript (hfair.dispatchAt depth) ..).confined
  show (dispatchWith (dispatchAt depth) event script origin).Confined _ _
  refine .ite (.pure _) (.bind hscript.attempt fun outcome => ?_)
  split
  · exact .pure _
  · exact .bind (reportFailure_confined ..) fun _ => .pure _

theorem dispatch_confined (event script : Text) (origin : Option Text) :
    (dispatch event script origin).Confined (Reliable settings) faults :=
  dispatchAt_confined 199 event script origin

end Engine

end CardTalk
