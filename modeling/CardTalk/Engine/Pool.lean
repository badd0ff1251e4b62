/-
Runs that take turns.

A pool holds tasks that share a state.  A task has its first turn some time after it was
posted, runs until it sleeps and goes on at its next turn.  Tasks of one source run one
after the other, in the order in which they were posted: one that has its first turn
while an earlier one of its source has not ended waits, and is called when that one ends.

`Pool.resume` gives any task a turn that can take one, so a statement about all orders is
a statement about all sequences of `resume`.  Who has the next turn is decided elsewhere.
-/
import CardTalk.Run

namespace CardTalk

/-- How far a task has come. -/
inductive Pool.Phase (σ α : Type) where
  /-- It has not had a turn. -/
  | fresh
  /-- Its source was taken when it had its first turn. -/
  | waiting
  /-- It has waited, and its source is free for it now. -/
  | called
  | asleep (seconds : Float) (wake : σ → Run σ α)
  | done (outcome : Except Fault α)

/-- A task; one without a source waits for no other. -/
structure Pool.Task (σ α : Type) where
  source : Option Text
  start : Action σ α
  phase : Pool.Phase σ α

/-- Tasks that share a state. -/
structure Pool (σ α : Type) where
  state : σ
  /-- In the order in which they were posted. -/
  tasks : List (Pool.Task σ α)

namespace Pool

variable {σ α : Type}

/-- Whether a task has ended. -/
def Task.isDone (t : Task σ α) : Bool := t.phase matches .done _

/-- Whether a task waits for its source. -/
def Task.isWaiting (t : Task σ α) : Bool := t.phase matches .waiting

/-- Whether a task has been called and not yet had its turn. -/
def Task.isCalled (t : Task σ α) : Bool := t.phase matches .called

/-- The pool without tasks. -/
def empty (s : σ) : Pool σ α := ⟨s, []⟩

/-- Adds a task. -/
def post (p : Pool σ α) (source : Option Text) (start : Action σ α) : Pool σ α :=
  { p with tasks := p.tasks ++ [⟨source, start, .fresh⟩] }

/-- Whether the source of the task at a position is taken by an earlier one. -/
def isTaken (p : Pool σ α) (i : Nat) : Bool :=
  match p.tasks[i]?.bind Task.source with
  | none => false
  | some source => (p.tasks.take i).any fun t => t.source == some source && !t.isDone

/-- The first task of a source that satisfies a test. -/
def firstOf? (p : Pool σ α) (source : Option Text) (test : Task σ α → Bool) : Option Nat :=
  if source.isSome then p.tasks.findIdx? fun t => t.source == source && test t else none

/-- The pool with another phase for the task at a position. -/
def setPhase (p : Pool σ α) (i : Nat) (phase : Phase σ α) : Pool σ α :=
  { p with tasks := p.tasks.modify i fun t => { t with phase } }

/-- Calls the first task that waits for a source. -/
def callNext (p : Pool σ α) (source : Option Text) : Pool σ α :=
  match p.firstOf? source Task.isWaiting with
  | some j => p.setPhase j .called
  | none => p

/-- Takes in how far the task at a position has run.  When it has ended, the next one that
waits for its source is called. -/
def advance (p : Pool σ α) (i : Nat) : Run σ α → Pool σ α
  | .asleep seconds s wake => { p with state := s }.setPhase i (.asleep seconds wake)
  | .finished outcome s =>
    let p := { p with state := s }.setPhase i (.done outcome)
    p.callNext (p.tasks[i]?.bind Task.source)

/-- Gives the task at a position a turn: it goes on until it sleeps or ends.  One that
waits or has ended is left as it is. -/
def resume (p : Pool σ α) (i : Nat) : Pool σ α :=
  match p.tasks[i]? with
  | none => p
  | some t =>
    match t.phase with
    | .fresh => if p.isTaken i then p.setPhase i .waiting else p.advance i (t.start p.state)
    | .called => p.advance i (t.start p.state)
    | .asleep _ wake => p.advance i (wake p.state)
    | .waiting | .done _ => p

/-- The outcome of the task at a position, once it has ended. -/
def outcome? (p : Pool σ α) (i : Nat) : Option (Except Fault α) :=
  match p.tasks[i]?.map Task.phase with
  | some (.done outcome) => some outcome
  | _ => none

/-- The task that has been called when the one at a position ended. -/
def calledBy? (p : Pool σ α) (i : Nat) : Option Nat :=
  p.firstOf? (p.tasks[i]?.bind Task.source) Task.isCalled

end Pool

end CardTalk
