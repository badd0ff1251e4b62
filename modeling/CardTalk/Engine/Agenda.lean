/-
Everything that is in progress on one engine.

Apart from what is being done for a caller right now, posted events, idle ticks and the
heartbeat itself may be under way.  Whatever sleeps goes to the end of one queue, and each
in the queue has a turn when it comes to the front; so all of them take turns at their
sleeps and nowhere else.

Whoever calls an operation here takes part in that order without standing in the queue: a
sleep of the operation gives everyone who is in the queue then one turn (`Agenda.round`).
What is still under way when an operation ends goes on during the sleeps of later ones.
-/
import CardTalk.Engine.Lifecycle
import CardTalk.Engine.Post
import CardTalk.Host.Line.Runtime

namespace CardTalk

/-- What stands in the queue. -/
inductive Agenda.Turn where
  /-- A posted event, by its position in the pool. -/
  | post (i : Nat)
  /-- The heartbeat. -/
  | pulse
  /-- An idle tick; `begun` once it has had a turn. -/
  | tick (begun : Bool) (wake : Engine → Run Engine Bool)
  /-- An idle tick, or the heartbeat, that is to end at its turn. -/
  | stopped (begun : Bool)
  /-- The news that something has ended: a posted event if it is given. -/
  | ended (post : Option Nat)

/-- An engine with everything that is in progress on it. -/
structure Agenda where
  /-- The engine and the events that have been posted to it. -/
  pool : Pool Engine Bool
  queue : List Agenda.Turn := []
  /-- Whether the heartbeat goes on at its next turn. -/
  running : Bool := false
  /-- How many more sleeps as long as the interval end the heartbeat, if they are counted. -/
  left : Option Nat := none
  /-- The posted events that are known to have ended, the latest first. -/
  known : List Nat := []

namespace Agenda

/-- An engine with nothing in progress. -/
def of (e : Engine) : Agenda := { pool := Pool.empty e }

/-- The engine. -/
def engine (a : Agenda) : Engine := a.pool.state

/-- The agenda with another state of the engine. -/
def withEngine (a : Agenda) (e : Engine) : Agenda := { a with pool := { a.pool with state := e } }

/-- Puts something at the end of the queue. -/
def enqueue (a : Agenda) (ts : List Turn) : Agenda := { a with queue := a.queue ++ ts }

/-! ### Turns -/

/-- Takes note of a sleep of some seconds. -/
def slept (a : Agenda) (seconds : Float) : Agenda :=
  match a.left, a.engine.interval with
  | some left, .ok interval =>
    if seconds == interval then
      { a with left := some (left - 1), running := a.running && left > 1 }
    else a
  | _, _ => a

/-- Lets a posted event go on. -/
def resumePost (a : Agenda) (i : Nat) : Agenda :=
  let a := { a with pool := a.pool.resume i }
  match a.pool.tasks[i]?.map Pool.Task.phase with
  | some (.asleep seconds _) => (a.enqueue [.post i]).slept seconds
  | some (.done _) => a.enqueue ((a.pool.calledBy? i).toList.map Turn.post ++ [.ended (some i)])
  | _ => a

/-- Sends off a tick and goes to sleep until the next one is due. -/
def beat (a : Agenda) : Except Fault Unit × Agenda :=
  let a := a.enqueue [.tick false Engine.idleTick]
  match a.engine.interval with
  | .error f => (.error f, a)
  | .ok seconds =>
    let e := a.engine
    (.ok (), (a.withEngine { e with trace := .sleep seconds :: e.trace }).slept seconds)

/-- Lets an idle tick go on. -/
def resumeTick (a : Agenda) (wake : Engine → Run Engine Bool) : Agenda :=
  match wake a.engine with
  | .asleep seconds e wake => ((a.withEngine e).enqueue [.tick true wake]).slept seconds
  | .finished _ e => (a.withEngine e).enqueue [.ended none]

/-- Gives something that has come to the front of the queue its turn. -/
def turn (a : Agenda) : Turn → Agenda
  | .post i => a.resumePost i
  | .pulse =>
    if a.running then
      match a.beat with
      | (.ok (), a) => a.enqueue [.pulse]
      | (.error _, a) => a
    else a
  | .tick _ wake => a.resumeTick wake
  | .stopped begun =>
    let e := a.engine
    (a.withEngine { e with idling := e.idling && !begun }).enqueue [.ended none]
  | .ended none => a
  | .ended (some i) => { a with known := i :: a.known }

/-- Gives a number of turns in the order of the queue. -/
def turns : Nat → Agenda → Agenda
  | 0, a => a
  | n + 1, a =>
    match a.queue with
    | [] => a
    | t :: rest => turns n ({ a with queue := rest }.turn t)

/-- Gives everyone who is in the queue now one turn. -/
def round (a : Agenda) : Agenda := turns a.queue.length a

/-- Gives turns in the order of the queue until a test holds, at most a number of times. -/
def turnsUntil (test : Agenda → Bool) : Nat → Agenda → Agenda
  | 0, a => a
  | n + 1, a =>
    if test a then a
    else
      match a.queue with
      | [] => a
      | t :: rest => turnsUntil test n ({ a with queue := rest }.turn t)

/-- More turns than anyone waits for. -/
def patience : Nat := Nat.pow 10 15

/-- Gives turns in the order of the queue until a test holds. -/
def waitUntil (a : Agenda) (test : Agenda → Bool) : Agenda := turnsUntil test patience a

/-! ### Operations -/

/-- Carries on with a run for the caller until it has finished. -/
def finish {α : Type} : Run Engine α → Agenda → Except Fault α × Agenda
  | .finished outcome e, a => (outcome, a.withEngine e)
  | .asleep seconds e wake, a =>
    let a := ((a.withEngine e).slept seconds).round
    finish (wake a.engine) a

/-- Carries out an action for the caller. -/
def perform {α : Type} (m : Action Engine α) (a : Agenda) : Except Fault α × Agenda :=
  finish (m a.engine) a

/-- Adds a posted event, and gives its position. -/
def add (a : Agenda) (p : Post) : Nat × Agenda :=
  (a.pool.tasks.length, { a with pool := p.addTo a.pool })

/-- Posts an event and waits for its end; whether it was handled. -/
def post (a : Agenda) (p : Post) : Except Fault Bool × Agenda :=
  let (i, a) := a.add p
  let a := (a.resumePost i).waitUntil fun a => (a.pool.outcome? i).isSome
  ((a.pool.outcome? i).getD (.ok false), a)

/-- Adds posted events to the queue, and gives their positions. -/
def addAll (a : Agenda) : List Post → List Nat × Agenda
  | [] => ([], a)
  | p :: rest =>
    let (i, a) := a.add p
    let (is, a) := (a.enqueue [.post i]).addAll rest
    (i :: is, a)

/-- The fault that one of some posted events is known to have ended with. -/
def knownFault? (a : Agenda) (is : List Nat) : Option Fault :=
  a.known.findSome? fun i =>
    match if is.contains i then a.pool.outcome? i else none with
    | some (.error f) => some f
    | _ => none

/-- Whether all of some posted events are known to have ended, or one with a fault. -/
def isSettled (is : List Nat) (a : Agenda) : Bool :=
  (a.knownFault? is).isSome || is.all fun i => a.known.contains i

/-- Posts events at the same time and waits for all of them: for each, whether it was
handled.  The first fault among them is the outcome at once; the others go on. -/
def postAll (a : Agenda) (posts : List Post) : Except Fault (List Bool) × Agenda :=
  match posts with
  | [] => (.ok [], a)
  | posts =>
    let (is, a) := { a with known := [] }.addAll posts
    let a := a.waitUntil (isSettled is)
    let fault := a.knownFault? is
    let a := a.round
    match fault with
    | some f => (.error f, a)
    | none => (is.mapM fun i => (a.pool.outcome? i).getD (.ok false), a)

/-- Whether an idle tick, or something stopped, has not been heard of yet. -/
def isIdle (a : Agenda) : Bool :=
  !a.queue.any fun t => t matches .tick .. | .stopped _ | .ended none

/-- Waits for the idle ticks to end. -/
def awaitTicks (a : Agenda) : Agenda :=
  if a.queue.any fun t => t matches .tick .. | .stopped _ then (a.waitUntil isIdle).round
  else a

/-- Begins a session.  The heartbeat begins after it if the settings ask for it. -/
def start (a : Agenda) : Except Fault Unit × Agenda :=
  match { a with running := true }.perform Engine.start with
  | (.ok beats, a) => (.ok (), if beats then a.enqueue [.pulse] else a)
  | (.error f, a) => (.error f, a)

/-- What is in the queue is stopped if it is a tick or the heartbeat. -/
def Turn.stop : Turn → Turn
  | .tick begun _ => .stopped begun
  | .pulse => .stopped false
  | t => t

/-- Ends the heartbeat and its ticks. -/
def shutdown (a : Agenda) : Agenda :=
  { a with running := false, queue := a.queue.map Turn.stop }.awaitTicks

/-- Lets the heart beat for the caller, at most a number of times. -/
def beatFor : Nat → Agenda → Except Fault Unit × Agenda
  | 0, a => (.ok (), a)
  | n + 1, a =>
    if a.running then
      match a.beat with
      | (.ok (), a) => beatFor n a.round
      | (.error f, a) => (.error f, a)
    else (.ok (), a)

/-- Runs the heartbeat until there have been a number of sleeps as long as the interval, and
waits for the ticks to end. -/
def idleLoop (a : Agenda) (sleeps : Nat) : Except Fault Unit × Agenda :=
  let a := { a with running := true }
  match a.engine.settings.idleInterval with
  | .error f => (.error f, a)
  | .ok _ =>
    match beatFor sleeps { a with left := some sleeps } with
    | (.ok (), a) => (.ok (), { a.awaitTicks with left := none })
    | (.error f, a) => (.error f, { a with left := none })

end Agenda

end CardTalk
