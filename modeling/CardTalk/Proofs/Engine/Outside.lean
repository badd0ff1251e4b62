/-
What calls that reach outside leave as it is.

Showing, saving, beeping and the like are recorded, use up effects and may fail when the
presenter does, but never touch the cards, the variables or the place of a search.  A call
is answered if it ends at once in this way, with its result or with a fault of the
presenter's own, and settled if it does so after a while; one such call after another is
such a call.

Showing needs a current card, since a console has to draw it.  What is shown and saved after a
change is one rendering, and one saving unless the rendering is refused (`Engine.Notified`).
-/
import CardTalk.Proofs.Conduct.Engine

namespace CardTalk

/-- A fault that calls of the presenter may end with. -/
def Presenter.MayFail (p : Presenter) (f : Fault) : Prop := ∃ events, p.failure events = some f

/-- The presenter never fails. -/
def Presenter.Steadfast (p : Presenter) : Prop := ∀ events, p.failure events = none

theorem Run.complete_bind {σ α β : Type} (next : α → Action σ β) :
    ∀ r : Run σ α, (r.bind next).complete =
      match r.complete.1 with
      | .ok a => (next a r.complete.2).complete
      | .error f => (.error f, r.complete.2)
  | .finished (.ok _) _ => rfl
  | .finished (.error _) _ => rfl
  | .asleep _ s wake => complete_bind next (wake s)

namespace Engine

variable {α β : Type} {e e' e'' : Engine}

/-- What host-mode scripts have left behind: their memory and what they have noted. -/
def hostState (e : Engine) : Host.Memory × List (List Host.Deferred) := (e.hostMemory, e.hostNotes)

/-- What calls that reach outside keep: all of the scene but its effects, the variables, the
place of a search and what decides about scripts and failures. -/
structure Steady (e e' : Engine) : Prop where
  scene : e'.scene.takeEffects.2 = e.scene.takeEffects.2
  registers : e'.registers = e.registers
  cursor : e'.cursor = e.cursor
  settings : e'.settings = e.settings
  failure : e'.presenter.failure = e.presenter.failure
  world : e'.world = e.world

namespace Steady

theorem refl (e : Engine) : Steady e e := ⟨rfl, rfl, rfl, rfl, rfl, rfl⟩

theorem trans (h : Steady e e') (h' : Steady e' e'') : Steady e e'' where
  scene := h'.scene.trans h.scene
  registers := h'.registers.trans h.registers
  cursor := h'.cursor.trans h.cursor
  settings := h'.settings.trans h.settings
  failure := h'.failure.trans h.failure
  world := h'.world.trans h.world

theorem contents (h : Steady e e') : e'.scene.contents = e.scene.contents := by
  show e'.scene.takeEffects.2.contents = e.scene.takeEffects.2.contents
  rw [h.scene]

theorem current (h : Steady e e') : e'.scene.current = e.scene.current :=
  (Scene.of_contents h.contents).2.2.2

theorem edits (h : Steady e e') : e'.scene.edits = e.scene.edits := by
  show e'.scene.takeEffects.2.edits = e.scene.takeEffects.2.edits
  rw [h.scene]

theorem navigation (h : Steady e e') : e'.scene.navigation = e.scene.navigation := by
  show e'.scene.takeEffects.2.navigation = e.scene.takeEffects.2.navigation
  rw [h.scene]

theorem hasCurrent (h : Steady e e') (hcurrent : e.scene.HasCurrent) : e'.scene.HasCurrent := by
  show e'.scene.takeEffects.2.HasCurrent
  rw [h.scene]
  exact hcurrent

end Steady

/-- An outcome is the result, unless the presenter has failed. -/
def Gives (e : Engine) (a : α) (outcome : Except Fault α) : Prop :=
  outcome = .ok a ∨ ∃ f, e.presenter.MayFail f ∧ outcome = .error f

/-- The run ends at once with the result, unless the presenter fails, and the engine is
steady. -/
def Answered (e : Engine) (a : α) (r : Run Engine α) : Prop :=
  ∃ outcome e', r = .finished outcome e' ∧ Steady e e' ∧ e.Gives a outcome

theorem Gives.of_never {a : α} {outcome : Except Fault α} (h : e.Gives a outcome)
    (hnever : ∀ events, e.presenter.failure events = none) : outcome = .ok a := by
  rcases h with h | ⟨f, ⟨events, hf⟩, -⟩
  · exact h
  · rw [hnever] at hf
    exact nomatch hf

/-- A fault of the presenter's is one of its faults earlier as well. -/
theorem Gives.before (h : e'.presenter.failure = e.presenter.failure) {a : α}
    {outcome : Except Fault α} (hgives : e'.Gives a outcome) : e.Gives a outcome := by
  rcases hgives with hok | ⟨f, ⟨events, hf⟩, herror⟩
  · exact .inl hok
  · exact .inr ⟨f, ⟨events, h ▸ hf⟩, herror⟩

theorem Answered.pure {a : α} (h : Steady e e') : Answered e a (.finished (.ok a) e') :=
  ⟨_, _, rfl, h, .inl rfl⟩

theorem Answered.bind {a : α} {b : β} {r : Run Engine α} {next : α → Action Engine β}
    (h : Answered e a r) (hnext : ∀ e', Steady e e' → Answered e' b (next a e')) :
    Answered e b (r.bind next) := by
  obtain ⟨outcome, e', rfl, hsteady, rfl | ⟨f, hf, rfl⟩⟩ := h
  · obtain ⟨outcome', e'', hrun, hsteady', hgives⟩ := hnext e' hsteady
    exact ⟨outcome', e'', hrun, hsteady.trans hsteady', hgives.before hsteady.failure⟩
  · exact ⟨.error f, e', rfl, hsteady, .inr ⟨f, hf, rfl⟩⟩

/-- Left to itself the run comes to the result, unless the presenter fails, and the engine is
steady. -/
def Settled (e : Engine) (a : α) (r : Run Engine α) : Prop :=
  Steady e r.complete.2 ∧ e.Gives a r.complete.1

theorem Answered.settled {a : α} {r : Run Engine α} (h : Answered e a r) : Settled e a r := by
  obtain ⟨outcome, e', rfl, hsteady, hgives⟩ := h
  exact ⟨hsteady, hgives⟩

theorem Settled.bind {a : α} {b : β} {r : Run Engine α} {next : α → Action Engine β}
    (h : Settled e a r) (hnext : ∀ e', Steady e e' → Settled e' b (next a e')) :
    Settled e b (r.bind next) := by
  obtain ⟨hsteady, hgives⟩ := h
  rw [Settled, Run.complete_bind]
  rcases hgives with hok | ⟨f, hf, herror⟩
  · obtain ⟨hsteady', hgives'⟩ := hnext _ hsteady
    rw [hok]
    exact ⟨hsteady.trans hsteady', hgives'.before hsteady.failure⟩
  · rw [herror]
    exact ⟨hsteady, .inr ⟨f, hf, rfl⟩⟩

/-! ### The calls one by one -/

/-- A call is recorded, whether or not it fails. -/
theorem call_eq (x : Event) (e : Engine) :
    call x e = .finished
      (match e.presenter.failure (x :: e.trace) with
        | some f => .error f
        | none => .ok ())
      { e with trace := x :: e.trace } := by
  show (match e.presenter.failure (x :: e.trace) with
    | some f => Action.fail f
    | none => pure () : Action Engine Unit) { e with trace := x :: e.trace } = _
  cases e.presenter.failure (x :: e.trace) with
  | some f => rfl
  | none => rfl

theorem call_answered (x : Event) (e : Engine) : Answered e () (call x e) := by
  refine ⟨_, _, call_eq x e, ⟨rfl, rfl, rfl, rfl, rfl, rfl⟩, ?_⟩
  cases hfailure : e.presenter.failure (x :: e.trace) with
  | some f => exact .inr ⟨f, ⟨_, hfailure⟩, rfl⟩
  | none => exact .inl rfl

theorem onConsole_answered (f : Console → Console) (e : Engine) :
    Answered e () (onConsole f e) := .pure ⟨rfl, rfl, rfl, rfl, rfl, rfl⟩

/-- A console can draw a scene that has a current card. -/
theorem exists_console_render {s : Scene} (h : s.HasCurrent) (console : Console) :
    ∃ console' s', console.render s = .ok (console', s') := by
  have hcard : s.cardAt s.current = .ok s.cards[s.current] := by
    rw [Scene.cardAt, List.getElem?_eq_getElem h]
  have hshown : s.takeEffects.2.cardAt s.takeEffects.2.current = .ok s.cards[s.current] := hcard
  simp only [Console.render, Scene.currentCard, Scene.partsOn, Scene.placedOn, hshown, bind,
    Except.bind, pure, Except.pure]
  exact ⟨_, _, rfl⟩

/-- Rendering is one call, and changes nothing else that can be told from outside. -/
theorem render_traced {e : Engine} (h : e.scene.HasCurrent) :
    ∃ outcome e', render e = .finished outcome e' ∧ Steady e e' ∧
      e'.hostState = e.hostState ∧ e'.trace = .render :: e.trace ∧
      outcome = match e.presenter.failure (.render :: e.trace) with
        | some f => .error f
        | none => .ok () := by
  let called : Engine := { e with trace := .render :: e.trace }
  have hcalled : Steady e called := ⟨rfl, rfl, rfl, rfl, rfl, rfl⟩
  have hbind : ∀ (m : Action Engine Unit) (next : Unit → Action Engine Unit),
      (m >>= next) e = (m e).bind next := fun _ _ => rfl
  rw [render, hbind, call_eq]
  cases e.presenter.failure (.render :: e.trace) with
  | some f => exact ⟨_, called, rfl, hcalled, rfl, rfl, rfl⟩
  | none =>
      have hget : ∀ next : Engine → Action Engine Unit,
          (Run.finished (.ok ()) called).bind (fun _ => get >>= next) = next called called :=
        fun _ => rfl
      dsimp only
      rw [hget]
      cases hconsole : called.presenter.console with
      | none => exact ⟨_, called, rfl, hcalled, rfl, rfl, rfl⟩
      | some console =>
          obtain ⟨console', s', hdrawn⟩ := exists_console_render h console
          simp only [hdrawn, called]
          obtain rfl := console_render hdrawn
          exact ⟨_, _, rfl, ⟨rfl, rfl, rfl, rfl, rfl, rfl⟩, rfl, rfl, rfl⟩

theorem render_answered {e : Engine} (h : e.scene.HasCurrent) : Answered e () (render e) := by
  obtain ⟨outcome, e', hrun, hsteady, -, -, rfl⟩ := render_traced h
  refine ⟨_, e', hrun, hsteady, ?_⟩
  cases hfailure : e.presenter.failure (.render :: e.trace) with
  | some f => exact .inr ⟨f, ⟨_, hfailure⟩, rfl⟩
  | none => exact .inl rfl

theorem requestSave_answered (e : Engine) : Answered e () (requestSave e) := by
  obtain ⟨outcome, e', hrun, hsteady, hgives⟩ := call_answered .save { e with saved := e.scene }
  have hsaved : Steady e { e with saved := e.scene } := ⟨rfl, rfl, rfl, rfl, rfl, rfl⟩
  exact ⟨outcome, e', hrun, hsaved.trans hsteady, hgives.before rfl⟩

/-- Whether or not asking to save fails, the scene is what is to be saved. -/
theorem requestSave_saved {outcome : Except Fault Unit}
    (h : requestSave e = .finished outcome e') : e'.saved = e'.scene := by
  have hcall : requestSave e = call .save { e with saved := e.scene } := rfl
  rw [hcall, call_eq] at h
  injection h with _ hstate
  rw [← hstate]

theorem notifyChanged_answered {e : Engine} (h : e.scene.HasCurrent) :
    Answered e () (notifyChanged e) :=
  (render_answered h).bind fun e' _ => requestSave_answered e'

theorem beep_answered (e : Engine) : Answered e () (beep e) := by
  have hbeep : Answered e () ((do
      Engine.call .beep
      Engine.onConsole fun c => c.write ['\x07'] : Action Engine Unit) e) :=
    (call_answered .beep e).bind fun e' _ => onConsole_answered _ e'
  obtain ⟨outcome, e', hrun, hsteady, -⟩ := hbeep
  refine ⟨.ok (), e', ?_, hsteady, .inl rfl⟩
  show (Run.attempt _).bind _ = _
  rw [hrun]
  rfl

theorem highlight_answered (id : Text) (e : Engine) : Answered e () (highlight id e) :=
  (call_answered (.highlight id) e).bind fun e' _ => onConsole_answered _ e'

theorem await_complete (e : Engine) : (await e).complete = (.ok (), e) := by
  show ((if e.world.isSlow e.trace then Action.sleep 0 else pure ()
    : Action Engine Unit) e).complete = _
  by_cases hslow : e.world.isSlow e.trace = true
  · rw [if_pos hslow]
    rfl
  · rw [if_neg hslow]
    rfl

/-- An alert may be a while in coming back, but comes to its end like any other call. -/
theorem alert_settled (title message : Text) (e : Engine) :
    Settled e () (alert title message e) := by
  refine (call_answered _ e).settled.bind fun e' _ => ?_
  refine (onConsole_answered _ e').settled.bind fun e'' _ => ?_
  rw [Settled, await_complete]
  exact ⟨.refl e'', .inl rfl⟩

/-! ### What a change asks for -/

/-- What a change asks of the presenter before it is over, and how it ends: one rendering, and
one saving unless the rendering is refused. -/
inductive Notified (e e' : Engine) : Except Fault Unit → Prop
  | unshown {f : Fault} (hrender : e.presenter.failure (.render :: e.trace) = some f)
      (htrace : e'.trace = .render :: e.trace) : Notified e e' (.error f)
  | unsaved {f : Fault} (hrender : e.presenter.failure (.render :: e.trace) = none)
      (hsave : e.presenter.failure (.save :: .render :: e.trace) = some f)
      (htrace : e'.trace = .save :: .render :: e.trace) : Notified e e' (.error f)
  | saved (hrender : e.presenter.failure (.render :: e.trace) = none)
      (hsave : e.presenter.failure (.save :: .render :: e.trace) = none)
      (htrace : e'.trace = .save :: .render :: e.trace) : Notified e e' (.ok ())

/-- Only the presenter and what has been asked of it so far matter. -/
theorem Notified.of_scene {e e' : Engine} {s : Scene} {outcome : Except Fault Unit}
    (h : Notified { e with scene := s } e' outcome) : Notified e e' outcome := by
  cases h with
  | unshown hrender htrace => exact .unshown hrender htrace
  | unsaved hrender hsave htrace => exact .unsaved hrender hsave htrace
  | saved hrender hsave htrace => exact .saved hrender hsave htrace

theorem notifyChanged_notified {e : Engine} (h : e.scene.HasCurrent) :
    ∃ outcome e', notifyChanged e = .finished outcome e' ∧ Steady e e' ∧
      e'.hostState = e.hostState ∧ Notified e e' outcome := by
  obtain ⟨outcome, e₁, hrender, hsteady, hhost, htrace, rfl⟩ := render_traced h
  have hnotify : notifyChanged e = (render e).bind fun _ => requestSave := rfl
  rw [hnotify, hrender]
  cases hshown : e.presenter.failure (.render :: e.trace) with
  | some f => exact ⟨_, e₁, rfl, hsteady, hhost, .unshown hshown htrace⟩
  | none =>
      let e₂ : Engine := { e₁ with saved := e₁.scene, trace := .save :: e₁.trace }
      have hsteady₂ : Steady e e₂ := hsteady.trans ⟨rfl, rfl, rfl, rfl, rfl, rfl⟩
      have htrace₂ : e₂.trace = .save :: .render :: e.trace := congrArg (Event.save :: ·) htrace
      have hsave : requestSave e₁ = .finished
          (match e₁.presenter.failure (.save :: e₁.trace) with
            | some f => .error f
            | none => .ok ()) e₂ := call_eq .save { e₁ with saved := e₁.scene }
      have hasked : e₁.presenter.failure (.save :: e₁.trace) =
          e.presenter.failure (.save :: .render :: e.trace) := by rw [hsteady.failure, htrace]
      rw [hasked] at hsave
      dsimp only [Run.bind]
      rw [hsave]
      cases hsaved : e.presenter.failure (.save :: .render :: e.trace) with
      | some f => exact ⟨_, e₂, rfl, hsteady₂, hhost, .unsaved hshown hsaved htrace₂⟩
      | none => exact ⟨_, e₂, rfl, hsteady₂, hhost, .saved hshown hsaved htrace₂⟩

theorem Notified.ok {outcome : Except Fault Unit} (h : Notified e e' outcome)
    (hnever : ∀ events, e.presenter.failure events = none) : outcome = .ok () := by
  cases h with
  | unshown hrender => exact nomatch (hnever _).symm.trans hrender
  | unsaved _ hsave => exact nomatch (hnever _).symm.trans hsave
  | saved => rfl

end Engine

end CardTalk
