/-
Starting up, and a session at the console.

A session starts the stack and then answers the user's lines one after the other until
there are no more or one of them is `quit`.  The lines are the replies of the presenter:
a question asked on the way takes the next one.
-/
import CardTalk.Engine.Idle
import CardTalk.Engine.Message

namespace CardTalk.Engine

/-- Sends the events that begin a session and shows the scene; whether the heartbeat is to
begin then. -/
def start : Action Engine Bool := do
  let stack := (← get).scene.stack
  let _ ← dispatch "startUp" stack.script (some stack.id)
  let _ ← dispatch "openStack" stack.script (some stack.id)
  let _ ← offer "openCard" none
  render
  beats

/-- Takes the next line that the user has typed. -/
def nextLine : Action Engine (Option Text) := do
  let e ← get
  match e.presenter.replies with
  | [] => return none
  | line :: rest =>
    set { e with presenter := { e.presenter with replies := rest } }
    return some (line.getD [])

/-- Answers a line, or shows what went wrong. -/
def answer (line : Text) : Action Engine Unit := do
  match ← Action.attempt (message line) with
  | .ok reply => alert [] reply
  | .error f => alert "Error" f.message

/-- Answers the next line, unless it is blank; whether the session goes on after it. -/
def answerNext : Action Engine Bool := do
  match ← nextLine with
  | none => return false
  | some line =>
    let t := Text.trim line
    if Text.lower t = "quit" then return false
    else
      if !t.isEmpty then answer line
      return true

/-- Answers at most a number of lines. -/
def answerLines : Nat → Action Engine Unit
  | 0 => return
  | n + 1 => do if ← answerNext then answerLines n

/-- Begins a session; whether the heartbeat is to begin then.  Nothing is served over a
network here, but the settings have to say whether it should. -/
def openSession : Action Engine Bool := do
  let beating ← start
  let _ ← ((← get).settings.isServed : Except Fault Bool)
  return beating

/-- A whole session. -/
def session : Action Engine Unit := do
  let _ ← openSession
  answerLines (← get).presenter.replies.length

end CardTalk.Engine
