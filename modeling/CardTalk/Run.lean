/-
Runs that can be suspended.

A run on a state either has finished, with a result or a fault and the state it leaves,
or sleeps: it has left a state, and goes on later from whatever state it then finds.
Several runs that share a state can so take turns at their sleeps and nowhere else.

An action is a run for every state to start from.  Actions are put together by `bind`; a
fault ends an action unless `attempt` turns it into a result.
-/
import CardTalk.Fault

namespace CardTalk

/-- A run on a state of type `σ` with a result of type `α`. -/
inductive Run (σ α : Type) where
  | finished (outcome : Except Fault α) (state : σ)
  | asleep (seconds : Float) (state : σ) (wake : σ → Run σ α)

/-- A run for every state to start from. -/
def Action (σ α : Type) := σ → Run σ α

namespace Run

variable {σ τ α β : Type}

/-- The run followed by an action on its result. -/
def bind (next : α → Action σ β) : Run σ α → Run σ β
  | finished (.ok a) s => next a s
  | finished (.error f) s => finished (.error f) s
  | asleep t s wake => asleep t s fun s' => bind next (wake s')

/-- The run with a fault as its result. -/
def attempt : Run σ α → Run σ (Except Fault α)
  | finished outcome s => finished (.ok outcome) s
  | asleep t s wake => asleep t s fun s' => attempt (wake s')

/-- The run with a state beside it that it does not touch. -/
def beside (t : τ) : Run σ α → Run (σ × τ) α
  | finished outcome s => finished outcome (s, t)
  | asleep d s wake => asleep d (s, t) fun s' => beside s'.2 (wake s'.1)

/-- The run with the second part of its state kept to itself. -/
def hide : Run (σ × τ) α → Run σ α
  | finished outcome s => finished outcome s.1
  | asleep d s wake => asleep d s.1 fun s' => hide (wake (s', s.2))

/-- The run with the second part of its state as a part of its result. -/
def keep : Run (σ × τ) α → Run σ (Except Fault α × τ)
  | finished outcome s => finished (.ok (outcome, s.2)) s.1
  | asleep d s wake => asleep d s.1 fun s' => keep (wake (s', s.2))

/-- The outcome and the last state of a run that nothing interrupts at its sleeps. -/
def complete : Run σ α → Except Fault α × σ
  | finished outcome s => (outcome, s)
  | asleep _ s wake => complete (wake s)

end Run

namespace Action

variable {σ τ α β : Type}

instance : Monad (Action σ) where
  pure a := fun s => .finished (.ok a) s
  bind m next := fun s => (m s).bind next

instance : MonadStateOf σ (Action σ) where
  get := fun s => .finished (.ok s) s
  set s := fun _ => .finished (.ok ()) s
  modifyGet f := fun s => .finished (.ok (f s).1) (f s).2

instance : MonadLift (Except Fault) (Action σ) := ⟨fun outcome s => .finished outcome s⟩

instance : MonadLift (Action σ) (Action (σ × τ)) := ⟨fun m s => (m s.1).beside s.2⟩

/-- The action that only fails. -/
def fail (f : Fault) : Action σ α := fun s => .finished (.error f) s

/-- The action with a fault as its result. -/
def attempt (m : Action σ α) : Action σ (Except Fault α) := fun s => (m s).attempt

/-- The action on a larger state that starts with `t` and keeps it to itself. -/
def within (t : τ) (m : Action (σ × τ) α) : Action σ α := fun s => (m (s, t)).hide

/-- The action on a larger state that starts with `t`; what becomes of `t` goes with the
outcome, which is a fault only in it. -/
def keep (t : τ) (m : Action (σ × τ) α) : Action σ (Except Fault α × τ) :=
  fun s => (m (s, t)).keep

/-- Sleeps once. -/
def sleep (seconds : Float) : Action σ Unit :=
  fun s => .asleep seconds s fun s' => .finished (.ok ()) s'

/-- The action carried out a number of times. -/
def times (m : Action σ Unit) : Nat → Action σ Unit
  | 0 => pure ()
  | n + 1 => do
    m
    times m n

end Action

end CardTalk
