/-
Running the handler for an event in a script.

A failure in a handler goes no further: it is logged, the presenter beeps and shows one
alert, and the dispatch reports that the event was not handled.  Handlers may send events
and so run other handlers inside their own run; `dispatchAt` bounds how deeply they can be
nested, and a handler that would be nested deeper fails like any other.

The operations of the engine that run handlers come at the end, with the nesting bound
filled in.
-/
import CardTalk.Engine.Execute
import CardTalk.Host.Context
import CardTalk.Script.Statement
import CardTalk.Script.Handler

namespace CardTalk.Engine

/-! ### Host-mode scripts -/

section

variable (dispatch : Dispatch)

/-- Does what a host-mode script has noted for later. -/
def performDeferred : Host.Deferred → Action Engine Unit
  | .go destination => goToWith dispatch destination
  | .addCard name => do
    let s ← ((← get).scene.addCard name : Except Fault _)
    changeScene fun _ => s
    notifyChanged
  | .deleteCard => do if ← deleteCard then notifyChanged
  | .alert message => alert [] message
  | .prompt message => do setIt ((← prompt message).getD [])
  | .fetch url => fetchIntoIt "fetch" url

/-- How many actions more may be noted while those of a context are being done. -/
def sparePerformances : Nat := 10000

/-- Does what has been noted in a context, from a position on, and forgets it in the end.  What
is noted meanwhile is done as well, up to a number of actions. -/
def workOff (context : Nat) : (most position : Nat) → Action Engine Unit
  | 0, _ => Action.fail .endlessActions
  | most + 1, position => do
    match (Host.noted context (← get))[position]? with
    | none => Host.forget context
    | some d => do
      performDeferred dispatch d
      workOff context most (position + 1)

/-- Does what has been noted in a context. -/
def performNoted (context : Nat) : Action Engine Unit := do
  let e ← get
  workOff dispatch context ((Host.noted context e).length + sparePerformances + 1) 0

/-- Runs a host-mode script, then does what it has noted. -/
def runHost (script event : Text) (origin : Option Text) : Action Engine Unit := do
  let context ← Host.openContext
  Host.runIn context script event origin
  performNoted dispatch context
  notifyChanged

/-- Calls methods as a host-mode script would, then does what they have noted. -/
def callHostWith (calls : List (Text × List Value)) : Action Engine (List Host.Result) := do
  let context ← Host.openContext
  let results ← calls.mapM fun c => Host.callByName context c.1 c.2
  performNoted dispatch context
  return results

/-! ### Dispatch -/

/-- Runs the handler for an event among statements, with a fresh context; whether there is
one. -/
def runHandler (statements : List Text) (event : Text) (origin : Option Text) :
    Action Engine Bool := do
  match Script.handler? statements event with
  | none => return false
  | some body =>
    Action.within { origin } (Handler.runStatements dispatch body)
    return true

/-- Runs a script for an event; whether it handles the event. -/
def runScript (script event : Text) (origin : Option Text) : Action Engine Bool := do
  if (← get).settings.hostMarker.any (Script.isHostMode script) then
    runHost dispatch script event origin
    return true
  else runHandler dispatch (Script.statements script) event origin

/-- Reports a failure to the log and to the user. -/
def reportFailure (event : Text) (origin : Option Text) (f : Fault) : Action Engine Unit := do
  log .error (("Script error in " : Text) ++ event ++ " handler (source=" ++ origin.getD "None"
    ++ ")")
  beep
  alert "Script Error" f.message

/-- Runs the handler for an event in a script, and reports it if that fails. -/
def dispatchWith : Dispatch := fun event script origin => do
  if Text.allBlank script then return false
  else
    match ← Action.attempt (runScript dispatch script event origin) with
    | .ok handled => return handled
    | .error f =>
      reportFailure event origin f
      return false

end

/-- Runs a handler inside which handlers may be nested `depth` deep. -/
def dispatchAt : Nat → Dispatch
  | 0 => fun _ _ _ => Action.fail .nestedTooDeep
  | depth + 1 => dispatchWith (dispatchAt depth)

/-- How deeply handlers can be nested. -/
def nestingLimit : Nat := 200

/-- Runs the handler for an event in a script, on behalf of an object; whether there was
one and it ran to its end. -/
def dispatch : Dispatch := dispatchAt nestingLimit

/-! ### Operations that run handlers -/

/-- Offers an event from an object, or from the card, to all that may handle it. -/
def offer (event : Text) (origin : Option Text) : Action Engine Bool :=
  offerWith dispatch event origin

/-- Goes to a card. -/
def goTo (destination : Value) : Action Engine Unit := goToWith dispatch destination

/-- Finds the next field that holds a term, among those with a name if one is given. -/
def find (term : Text) (field : Option Text) : Action Engine Bool := findWith dispatch term field

/-- Calls methods as a host-mode script would, then does what they have noted. -/
def callHost (calls : List (Text × List Value)) : Action Engine (List Host.Result) :=
  callHostWith dispatch calls

end CardTalk.Engine
