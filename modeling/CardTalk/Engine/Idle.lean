/-
The idle heartbeat.

In regular intervals every object on the current card with a script, and then the card
itself, is sent `idle`.  A tick that comes while such a pass is still in progress is
skipped, so passes never overlap; a pass that fails is logged.
-/
import CardTalk.Engine.Dispatch

namespace CardTalk.Engine

/-- Sends `idle` to an object unless its script is empty. -/
def idleObject (r : Reference) (id : Text) : Action Engine Unit := do
  let script := (← get).scene.scriptOf r
  if !script.isEmpty then
    let _ ← dispatch "idle" script (some id)

/-- Sends `idle` to the objects that are on the current card at the start, and then to the
card. -/
def idlePass : Action Engine Unit := do
  let s := (← get).scene
  let parts ← (s.placedOn s.current : Except Fault _)
  parts.forM fun r => idleObject (s.refer r.1) r.2.id
  let _ ← offer "idle" none

/-- Notes whether a pass is in progress. -/
def setIdling (b : Bool) : Action Engine Unit := modify fun e => { e with idling := b }

/-- One tick: a pass, unless one is in progress already; whether it was a pass. -/
def idleTick : Action Engine Bool := do
  if (← get).idling then return false
  else
    setIdling true
    match ← Action.attempt idlePass with
    | .ok () => setIdling false
    | .error _ =>
      log .error "Idle pass failed"
      setIdling false
    return true

/-- Whether the settings ask for ticks. -/
def beats : Action Engine Bool := do
  let given ← ((← get).settings.idleInterval : Except Fault _)
  match Quantity.ofData? given with
  | some q => return q.isPositive
  | none => Action.fail (.notComparable ">" given.typeName "int")

/-- The seconds between two ticks. -/
def interval (e : Engine) : Except Fault Float := do
  let given ← e.settings.idleInterval
  match Quantity.ofData? given with
  | some q => q.toFloat
  | none => .error (.noFloatReading given.typeName)

end CardTalk.Engine
