/-
What a run does to the world outside, in order.

Everything that can be seen from outside is an event: calls of the presenter, waits,
fetches and entries of the log.
-/
import CardTalk.Text.Basic

namespace CardTalk

/-- The grades of log entries. -/
inductive Severity where
  | info | warning | error
  deriving DecidableEq, Repr

/-- The word for a grade. -/
def Severity.name : Severity → Text
  | info => "INFO"
  | warning => "WARNING"
  | error => "ERROR"

/-- An event. -/
inductive Event where
  | render
  | save
  | alert (title message : Text)
  /-- A question and the answer, if the user gave one. -/
  | prompt (message : Text) (reply : Option Text)
  | beep
  | openUrl (url : Text)
  | highlight (id : Text)
  | sleep (seconds : Float)
  | fetch (url : Text)
  | log (severity : Severity) (message : Text)
  deriving DecidableEq

/-- The presenter's call that an event is, if it is one. -/
def Event.call? : Event → Option Text
  | render => some "render"
  | save => some "save"
  | alert .. => some "alert"
  | prompt .. => some "prompt"
  | beep => some "beep"
  | openUrl _ => some "open_url"
  | highlight _ => some "highlight"
  | sleep _ | fetch _ | log .. => none

end CardTalk
