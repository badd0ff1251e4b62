/-
The program: a session with a stack at the console.

The argument is the file of a stack definition; without one the stack has one empty card.
The configuration is read from the file that the environment names, if it names one.
Lines come from standard input, the console is standard output, and the log goes to
standard error.  While a script waits, and while the user thinks, the heartbeat goes on.

Only what has to reach outside is done here.  Everything between two sleeps of a run is
one pure turn, so a turn that asks the user more than has been typed is simply taken again
with one more line.
-/
import CardTalk.Data.Notation
import CardTalk.Engine.Idle
import CardTalk.Engine.Lifecycle
import CardTalk.Host.Line.Runtime
import CardTalk.Scene.Definition
import Std.Time.Zoned

namespace CardTalk.Terminal

/-! ### Files -/

/-- Stops the program with the words for what went wrong. -/
def stopWith {α : Type} (words : Text) : IO α := throw (IO.userError (String.ofList words))

/-- What a computation gives, or the end of the program. -/
def orStop {α : Type} : Except Fault α → IO α
  | .ok a => return a
  | .error f => stopWith f.message

/-- The data in a file. -/
def dataIn (path : String) : IO Data := do
  match Data.Notation.read? (← IO.FS.readFile path).toList with
  | some d => return d
  | none => stopWith (("cannot read " : Text) ++ path.toList)

/-- The configuration. -/
def readConfig : IO (Table Data) := do
  match ← IO.getEnv "CARDSCRIPT_CONFIG" with
  | none => return Config.load [] []
  | some path => orStop (Config.ofFile path.toList [] (← dataIn path))

/-- The scene of a definition file. -/
def readScene (path : String) : IO Scene := do
  orStop (Scene.ofFile path.toList (← dataIn path))

/-! ### The world -/

/-- A number between two bounds that a seed scatters. -/
def scatter (seed : Nat) (lowest highest : Int) : Int :=
  let roll := (mixHash (hash seed) (hash (lowest, highest))).toNat
  lowest + (roll : Int) % (highest - lowest + 1)

/-- A number with at least two digits. -/
def twoDigits (n : Nat) : Text := if n < 10 then '0' :: Text.ofNat n else Text.ofNat n

/-- Three numbers with a mark between them. -/
def triple (mark : Char) (a b c : Nat) : Text :=
  twoDigits a ++ mark :: twoDigits b ++ mark :: twoDigits c

/-- What is around the program at this moment.  The program itself has no network.  After
everything that happens within the moment, draws come out anew. -/
def lookAround : IO (List Event → Surroundings) := do
  let seed ← IO.rand 0 1000000000
  let now ← Std.Time.PlainDateTime.now
  return fun events => {
    draw := scatter (seed + events.length)
    date := triple '/' now.month.toNat now.day.toNat (now.year.toInt.toNat % 100)
    time := triple ':' now.hour.toNat now.minute.toNat now.second.toNat
    fetch := fun url => .error (.fetchFailed (("no route to " : Text) ++ url)) }

/-! ### The user -/

/-- The user's side: what is typed and what has been shown. -/
structure Desk where
  input : IO.FS.Stream
  /-- The line that is being read. -/
  pending : IO.Ref (Option (Task (Except IO.Error String)))
  /-- Whether the input has ended. -/
  ended : IO.Ref Bool
  /-- How many pieces of the console's text have been shown. -/
  shown : IO.Ref Nat

namespace Desk

/-- The line that is being read; reading begins where none is. -/
def reading (d : Desk) : IO (Task (Except IO.Error String)) := do
  match ← d.pending.get with
  | some task => return task
  | none =>
    let task ← IO.asTask d.input.getLine
    d.pending.set (some task)
    return task

/-- The next line without its line break, once it is there; nothing at the end. -/
def line? (d : Desk) : IO (Option Text) := do
  if ← d.ended.get then return none
  let read ← IO.ofExcept (← IO.wait (← d.reading))
  d.pending.set none
  if read.isEmpty then
    d.ended.set true
    return none
  else return some (read.toList.filter (· != '\n'))

/-- Shows the pieces of a console's text that are new, up to a number of all pieces. -/
def showUpTo (d : Desk) (pieces : List Text) : IO Unit := do
  let fresh := (pieces.drop (← d.shown.get)).flatten
  IO.print (String.ofList fresh)
  (← IO.getStdout).flush
  d.shown.modify (max pieces.length)

end Desk

/-- The pieces of the console's text, oldest first. -/
def written (e : Engine) : List Text :=
  (e.presenter.console.map fun c => c.written.reverse).getD []

/-- What happened between two states, oldest first. -/
def between (before after : Engine) : List Event :=
  (after.trace.take (after.trace.length - before.trace.length)).reverse

/-- The first question among events that nobody has answered. -/
def unanswered? (events : List Event) : Option Text :=
  events.findSome? fun
    | .prompt message none => some message
    | _ => none

/-- The state in which a run leaves off. -/
def leftBy {α : Type} : Run Engine α → Engine
  | .finished _ e => e
  | .asleep _ e _ => e

/-- Takes one turn of a run.  At a question without an answer the user is shown all up to
it and types a line, and the turn is taken again with that line. -/
partial def takeTurn (d : Desk) (start : Engine → Run Engine Bool) (e : Engine) :
    IO (Run Engine Bool) := do
  let run := start e
  let events := between e (leftBy run)
  let pieces := written (leftBy run)
  if let some question := unanswered? events then
    let asked := (({} : Console).writeLine (Markup.inStyle "cyan" question)).output
    let old := (written e).length
    d.showUpTo (pieces.take (old + ((pieces.drop old).idxOf asked) + 1))
    if let some line ← d.line? then
      let presenter := { e.presenter with replies := e.presenter.replies ++ [some line] }
      return ← takeTurn d start { e with presenter }
  d.showUpTo pieces
  for event in events do
    if let .log severity message := event then
      IO.eprintln (String.ofList ('[' :: severity.name ++ "] " ++ message))
  return run

/-! ### The session -/

/-- What a sleeping run is for: answering the user, or a tick of the heartbeat. -/
inductive Purpose where
  | answer | tick

/-- A run that sleeps. -/
structure Sleeper where
  purpose : Purpose
  /-- When it goes on, in milliseconds. -/
  due : Nat
  wake : Engine → Run Engine Bool

/-- The session as it is. -/
structure Session where
  engine : Engine
  sleepers : List Sleeper
  /-- Whether the user waits for an answer. -/
  answering : Bool
  /-- When the heart beats next, in milliseconds. -/
  nextTick : Nat

namespace Session

/-- Some seconds in milliseconds. -/
def milliseconds (seconds : Float) : Nat := (seconds * 1000).toUInt64.toNat

/-- Lets a run have a turn; nothing is left of the session once it is over. -/
def go (s : Session) (d : Desk) (purpose : Purpose) (wake : Engine → Run Engine Bool) :
    IO (Option Session) := do
  let world := { s.engine.world with now := ← lookAround }
  match ← takeTurn d wake { s.engine with world, trace := [] } with
  | .asleep seconds engine wake =>
    let sleeper := ⟨purpose, (← IO.monoMsNow) + milliseconds seconds, wake⟩
    return some { s with engine, sleepers := s.sleepers ++ [sleeper] }
  | .finished outcome engine =>
    match purpose with
    | .tick => return some { s with engine }
    | .answer =>
      if ← orStop outcome then return some { s with engine, answering := false }
      else return none

/-- Starts to answer a line. -/
def hear (s : Session) (d : Desk) (line : Text) : IO (Option Session) := do
  let presenter := { s.engine.presenter with replies := s.engine.presenter.replies ++ [some line] }
  let heard : Session := { s with engine := { s.engine with presenter }, answering := true }
  heard.go d .answer Engine.answerNext

/-- Goes on with the session until it is over. -/
partial def attend (s : Session) (d : Desk) : IO Unit := do
  let now ← IO.monoMsNow
  let interval := s.engine.interval.toOption.getD 0
  let next ←
    if let some sleeper := s.sleepers.find? fun r => r.due ≤ now then
      let sleepers := s.sleepers.eraseP fun r => r.due ≤ now
      Session.go { s with sleepers } d sleeper.purpose sleeper.wake
    else if interval > 0 && s.nextTick ≤ now then
      Session.go { s with nextTick := now + milliseconds interval } d .tick Engine.idleTick
    else if !s.answering && (← IO.hasFinished (← d.reading)) then
      match ← d.line? with
      | some line => s.hear d line
      | none => pure none
    else
      IO.sleep 5
      pure (some s)
  if let some s := next then s.attend d

end Session

end CardTalk.Terminal

open CardTalk Terminal

/-- Runs a session with the stack of a file. -/
def main (args : List String) : IO Unit := do
  let config ← readConfig
  let _ ← orStop (Config.logLevel config)
  let scene ← match args with
    | [] => pure Scene.blank
    | path :: _ => readScene path
  -- an engine lays what it is given over the built-in configuration once more
  let settings ← orStop (Settings.ofConfig (Config.load config []))
  let presenter : Presenter := { console := some {}, replies := [], failure := fun _ => none }
  let world : World :=
    { now := ← lookAround, isSlow := fun _ => false, host := Host.Line.runtime }
  let engine := Engine.new scene settings presenter world
  let desk : Desk :=
    ⟨← IO.getStdin, ← IO.mkRef none, ← IO.mkRef false, ← IO.mkRef 0⟩
  let session : Session := ⟨engine, [], true, ← IO.monoMsNow⟩
  let started ← session.go desk .answer (Engine.openSession >>= fun _ => return true)
  if let some session := started then session.attend desk
