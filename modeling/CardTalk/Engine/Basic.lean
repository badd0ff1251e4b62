/-
The engine: the live scene with everything that running scripts needs, and the calls that
reach outside.

The state is one value.  Whatever can be seen from outside is recorded in its trace, so
that two runs can be compared by what they did.  A handler runs on the engine and on a
context of its own beside it.
-/
import CardTalk.Run
import CardTalk.World

namespace CardTalk

/-- The state of the engine. -/
structure Engine extends Interior where
  /-- What all host-mode scripts share. -/
  hostMemory : Host.Memory
  world : World
  /-- What has happened, the latest first. -/
  trace : List Event

/-- Something that handlers do: it has the engine and the handler's own context. -/
abbrev Handler (α : Type) := Action (Engine × Context) α

namespace Engine

/-- The engine at the start. -/
def new (scene : Scene) (settings : Settings) (presenter : Presenter) (world : World) : Engine where
  scene
  saved := scene
  registers := {}
  cursor := {}
  hostNotes := []
  idling := false
  presenter
  settings
  hostMemory := {}
  world
  trace := []

/-- What is around the engine now. -/
def surroundings (e : Engine) : Surroundings := e.world.now e.trace

/-! ### What happens outside -/

/-- Records an event. -/
def record (e : Event) : Action Engine Unit :=
  modify fun s => { s with trace := e :: s.trace }

/-- Makes a call of the presenter, which may fail. -/
def call (e : Event) : Action Engine Unit := do
  record e
  let s ← get
  match s.presenter.failure s.trace with
  | some f => Action.fail f
  | none => return

/-- Lets others go on while the answer from outside is a while in coming. -/
def await : Action Engine Unit := do
  let s ← get
  if s.world.isSlow s.trace then Action.sleep 0

/-- Changes what the console has shown, if there is one. -/
def onConsole (f : Console → Console) : Action Engine Unit :=
  modify fun s =>
    { s with presenter := { s.presenter with console := s.presenter.console.map f } }

/-- Shows the scene. -/
def render : Action Engine Unit := do
  call .render
  let s ← get
  match s.presenter.console with
  | none => return
  | some c =>
    let (c, scene) ← (c.render s.scene : Except Fault _)
    set { s with scene, presenter := { s.presenter with console := some c } }

/-- Asks for the scene to be saved as it is. -/
def requestSave : Action Engine Unit := do
  modify fun s => { s with saved := s.scene }
  call .save

/-- Shows and saves the scene after a change. -/
def notifyChanged : Action Engine Unit := do
  render
  requestSave

/-- Beeps; a failure to do so does not matter. -/
def beep : Action Engine Unit := do
  let _ ← Action.attempt do
    call .beep
    onConsole fun c => c.write ['\x07']

/-- Shows a message, under a title if it has one. -/
def alert (title message : Text) : Action Engine Unit := do
  call (.alert title message)
  let heading : Text := if title.isEmpty then [] else Markup.inStyle "bold" (title ++ ":") ++ [' ']
  onConsole fun c => c.writeLine (heading ++ message)
  await

/-- Asks the user, who may dismiss the question. -/
def prompt (message : Text) : Action Engine (Option Text) := do
  let s ← get
  let reply := s.presenter.replies.head?.join
  set { s with presenter := { s.presenter with replies := s.presenter.replies.tail } }
  onConsole fun c => c.writeLine (Markup.inStyle "cyan" message)
  call (.prompt message reply)
  await
  return reply

/-- Asks the user for a yes; a silent presenter never gets one. -/
def confirm (message : Text) : Action Engine Bool := do
  match (← get).presenter.console with
  | none => return false
  | some _ =>
    let reply ← prompt (message ++ " [y/N]")
    return [("y" : Text), "yes"].contains (Text.lower (Text.trim (reply.getD [])))

/-- Opens a network address. -/
def openUrl (url : Text) : Action Engine Unit := do
  call (.openUrl url)
  onConsole fun c => c.writeLine (Markup.inStyle "underline" url)

/-- Makes an object stand out. -/
def highlight (id : Text) : Action Engine Unit := do
  call (.highlight id)
  onConsole fun c => { c with highlighted := some id }

/-- Waits for some seconds. -/
def sleep (seconds : Float) : Action Engine Unit := do
  record (.sleep seconds)
  Action.sleep seconds

/-- Fetches the text behind a network address. -/
def fetch (url : Text) : Action Engine Text := do
  record (.fetch url)
  await
  (← get).surroundings.fetch url

/-- Writes an entry to the log. -/
def log (severity : Severity) (message : Text) : Action Engine Unit :=
  record (.log severity message)

/-- Writes a warning to the log. -/
def warn (message : Text) : Action Engine Unit := log .warning message

/-! ### Parts of the state -/

/-- Changes the scene. -/
def changeScene (f : Scene → Scene) : Action Engine Unit :=
  modify fun s => { s with scene := f s.scene }

/-- Sets the register `it`. -/
def setIt (value : Text) : Action Engine Unit :=
  modify fun s => { s with registers := { s.registers with it := value } }

/-- Fetches a text into `it`; where that fails, `it` says so and the log too, with `what`
naming the attempt. -/
def fetchIntoIt (what url : Text) : Action Engine Unit := do
  match ← Action.attempt (fetch url) with
  | .ok body => setIt body
  | .error f =>
    warn (what ++ " " ++ url ++ " failed: " ++ f.message)
    setIt (("Error: " : Text) ++ f.message)

end Engine

end CardTalk
