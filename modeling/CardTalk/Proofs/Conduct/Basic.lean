/-
What a run does to a state that others change while it sleeps.

A `Conduct` is a rule for everyone who shares a state: what holds whenever somebody goes
on, and how the state may be changed.  A run follows it if each stretch between two sleeps
obeys the rule, as long as the others obey it during the sleeps.  Runs that follow one
conduct can therefore be mixed in any order, and the conduct holds of the mixture.  A rule
may also bind only those who follow it and nobody else: what they leave as they find it
(`Conduct.leaves`) may be changed during their sleeps.

Since a conduct is closed under doing one thing after another, an action follows it as soon
as its parts do.  That is all this file shows, one lemma for each way to put actions
together; `Conduct.Engine` and its followers apply them to the engine.
-/
import CardTalk.Run

namespace CardTalk

/-- A rule for everyone who shares a state. -/
structure Conduct (σ : Type) where
  /-- What holds whenever somebody starts or goes on. -/
  holds : σ → Prop
  /-- What may become of a state. -/
  leads : σ → σ → Prop
  refl : ∀ {s}, holds s → leads s s
  trans : ∀ {s t u}, leads s t → leads t u → leads s u
  stable : ∀ {s t}, leads s t → holds s → holds t
  /-- What a stretch between two sleeps leaves as it was, whatever becomes of it during the
  sleeps; nothing, unless it is given. -/
  leaves : σ → σ → Prop := fun _ _ => True
  leaves_refl : ∀ s, leaves s s := by exact fun _ => trivial
  leaves_trans : ∀ {s t u}, leaves s t → leaves t u → leaves s u := by exact fun _ _ => trivial

namespace Conduct

variable {σ : Type} (c : Conduct σ)

/-- What a stretch between two sleeps may make of a state. -/
def Does (s t : σ) : Prop := c.leads s t ∧ c.leaves s t

variable {c}

theorem does_refl {s : σ} (h : c.holds s) : c.Does s s := ⟨c.refl h, c.leaves_refl s⟩

theorem Does.trans {s t u : σ} (h : c.Does s t) (h' : c.Does t u) : c.Does s u :=
  ⟨c.trans h.1 h'.1, c.leaves_trans h.2 h'.2⟩

end Conduct

/-- The conduct on a larger state that says nothing about the second part. -/
def Conduct.beside {σ : Type} (c : Conduct σ) (τ : Type) : Conduct (σ × τ) where
  holds s := c.holds s.1
  leads s t := c.leads s.1 t.1
  refl h := c.refl h
  trans h h' := c.trans h h'
  stable h h' := c.stable h h'
  leaves s t := c.leaves s.1 t.1
  leaves_refl s := c.leaves_refl s.1
  leaves_trans h h' := c.leaves_trans h h'

theorem Run.bind_assoc {σ α β γ : Type} (f : α → Action σ β) (g : β → Action σ γ) :
    ∀ r : Run σ α, (r.bind f).bind g = r.bind fun a => f a >>= g
  | .finished (.ok _) _ => rfl
  | .finished (.error _) _ => rfl
  | .asleep seconds s wake =>
    congrArg (asleep seconds s) (funext fun s' => bind_assoc f g (wake s'))

theorem Run.bind_pure {σ α : Type} : ∀ r : Run σ α, r.bind pure = r
  | .finished (.ok _) _ => rfl
  | .finished (.error _) _ => rfl
  | .asleep seconds s wake => congrArg (asleep seconds s) (funext fun s' => bind_pure (wake s'))

instance {σ : Type} : LawfulMonad (Action σ) :=
  .mk' _ (fun m => funext fun s => (m s).bind_pure) (fun _ _ => rfl)
    fun m f g => funext fun s => Run.bind_assoc f g (m s)

namespace Run

variable {σ τ α β : Type} {c : Conduct σ}

/-- The state that a run has left so far. -/
def state : Run σ α → σ
  | finished _ s => s
  | asleep _ s _ => s

/-- The run, which started from a state, obeys the conduct as long as the others do. -/
def Follows (c : Conduct σ) : σ → Run σ α → Prop
  | s, finished _ s' => c.Does s s'
  | s, asleep _ s' wake => c.Does s s' ∧ ∀ s'', c.leads s' s'' → Follows c s'' (wake s'')

/-- A run that obeys the conduct does so from any earlier state. -/
theorem Follows.after {s t : σ} {r : Run σ α} (h : c.Does s t) (hr : r.Follows c t) :
    r.Follows c s := by
  cases r with
  | finished outcome s' => exact h.trans hr
  | asleep seconds s' wake => exact ⟨h.trans hr.1, hr.2⟩

/-- What a run has done before its first sleep. -/
theorem Follows.does {s : σ} {r : Run σ α} (h : r.Follows c s) : c.Does s r.state := by
  cases r with
  | finished outcome s' => exact h
  | asleep seconds s' wake => exact h.1

theorem Follows.bind {next : α → Action σ β} :
    ∀ {s : σ} {r : Run σ α}, r.Follows c s →
      (∀ a t, c.leads s t → (next a t).Follows c t) → (r.bind next).Follows c s := by
  intro s r
  induction r generalizing s with
  | finished outcome s' =>
      intro hr hnext
      cases outcome with
      | ok a => exact .after hr (hnext a s' hr.1)
      | error f => exact hr
  | asleep seconds s' wake ih =>
      intro hr hnext
      refine ⟨hr.1, fun s'' hs'' => ih s'' (hr.2 s'' hs'') fun a t ht => ?_⟩
      exact hnext a t (c.trans hr.1.1 (c.trans hs'' ht))

theorem Follows.attempt :
    ∀ {s : σ} {r : Run σ α}, r.Follows c s → r.attempt.Follows c s := by
  intro s r
  induction r generalizing s with
  | finished outcome s' => exact fun hr => hr
  | asleep seconds s' wake ih => exact fun hr => ⟨hr.1, fun s'' hs'' => ih s'' (hr.2 s'' hs'')⟩

theorem Follows.beside (t : τ) :
    ∀ {s : σ} {r : Run σ α}, r.Follows c s → (r.beside t).Follows (c.beside τ) (s, t) := by
  intro s r
  induction r generalizing s t with
  | finished outcome s' => exact fun hr => hr
  | asleep seconds s' wake ih =>
      exact fun hr => ⟨hr.1, fun s'' hs'' => ih s''.1 s''.2 (hr.2 s''.1 hs'')⟩

theorem Follows.hide :
    ∀ {s : σ × τ} {r : Run (σ × τ) α}, r.Follows (c.beside τ) s → r.hide.Follows c s.1 := by
  intro s r
  induction r generalizing s with
  | finished outcome s' => exact fun hr => hr
  | asleep seconds s' wake ih =>
      exact fun hr => ⟨hr.1, fun s'' hs'' => ih (s'', s'.2) (hr.2 (s'', s'.2) hs'')⟩

end Run

namespace Action

variable {σ τ α β : Type} {c : Conduct σ}

/-- The action obeys the conduct from every state that the conduct allows. -/
structure Follows (c : Conduct σ) (m : Action σ α) : Prop where
  run : ∀ {s}, c.holds s → (m s).Follows c s

namespace Follows

theorem pure (a : α) : (Pure.pure a : Action σ α).Follows c := ⟨Conduct.does_refl⟩

theorem fail (f : Fault) : (Action.fail f : Action σ α).Follows c := ⟨Conduct.does_refl⟩

theorem ofExcept (outcome : Except Fault α) : (liftM outcome : Action σ α).Follows c :=
  ⟨Conduct.does_refl⟩

theorem get : (MonadState.get : Action σ σ).Follows c := ⟨Conduct.does_refl⟩

theorem modify {f : σ → σ} (h : ∀ {s}, c.holds s → c.Does s (f s)) :
    (modify f : Action σ PUnit).Follows c := ⟨h⟩

theorem sleep (seconds : Float) : (Action.sleep seconds : Action σ Unit).Follows c :=
  ⟨fun hs => ⟨Conduct.does_refl hs, fun _ hs' => Conduct.does_refl (c.stable hs' hs)⟩⟩

theorem bind {m : Action σ α} {next : α → Action σ β} (hm : m.Follows c)
    (hnext : ∀ a, (next a).Follows c) : (m >>= next).Follows c :=
  ⟨fun hs => (hm.run hs).bind fun a _ ht => (hnext a).run (c.stable ht hs)⟩

/-- An action that begins by looking at the state may rely on what it has seen. -/
theorem get_bind {next : σ → Action σ β} (h : ∀ {s}, c.holds s → (next s s).Follows c s) :
    (MonadState.get >>= next).Follows c := ⟨h⟩

theorem attempt {m : Action σ α} (hm : m.Follows c) : m.attempt.Follows c :=
  ⟨fun hs => (hm.run hs).attempt⟩

theorem beside {m : Action σ α} (hm : m.Follows c) :
    (liftM m : Action (σ × τ) α).Follows (c.beside τ) :=
  ⟨fun {s} hs => (hm.run hs).beside s.2⟩

theorem within {m : Action (σ × τ) α} (t : τ) (hm : m.Follows (c.beside τ)) :
    (Action.within t m).Follows c :=
  ⟨fun hs => .hide (hm.run (s := (_, t)) hs)⟩

theorem ite {p : Prop} [Decidable p] {m n : Action σ α} (hm : m.Follows c) (hn : n.Follows c) :
    (if p then m else n).Follows c := by
  split
  · exact hm
  · exact hn

theorem times {m : Action σ Unit} (hm : m.Follows c) : ∀ n, (m.times n).Follows c
  | 0 => .pure ()
  | n + 1 => .bind hm fun _ => times hm n

theorem forM {m : α → Action σ PUnit} (hm : ∀ a, (m a).Follows c) :
    ∀ l : List α, (l.forM m).Follows c
  | [] => .pure PUnit.unit
  | a :: l => .bind (hm a) fun _ => forM hm l

theorem mapM_loop {m : α → Action σ β} (hm : ∀ a, (m a).Follows c) :
    ∀ (l : List α) (done : List β), (List.mapM.loop m l done).Follows c
  | [], _ => .pure _
  | a :: l, done => .bind (hm a) fun b => mapM_loop hm l (b :: done)

theorem mapM {m : α → Action σ β} (hm : ∀ a, (m a).Follows c) (l : List α) :
    (l.mapM m).Follows c := mapM_loop hm l []

end Follows

end Action

namespace Run

variable {σ α β : Type} {c : Conduct σ}

/-- What follows on a lookup may rely on how it came out. -/
theorem Follows.ofExcept_bind {outcome : Except Fault α} {next : α → Action σ β} {s : σ}
    (hs : c.holds s) (h : ∀ a, outcome = .ok a → (next a s).Follows c s) :
    ((liftM outcome >>= next : Action σ β) s).Follows c s := by
  cases outcome with
  | error f => exact Conduct.does_refl hs
  | ok a => exact h a rfl

theorem Follows.set_bind {s s' : σ} {next : PUnit → Action σ β} (hs : c.holds s)
    (hdoes : c.Does s s') (hnext : (next PUnit.unit).Follows c) :
    ((set s' >>= next : Action σ β) s).Follows c s :=
  .after hdoes (hnext.run (c.stable hdoes.1 hs))

end Run

end CardTalk
