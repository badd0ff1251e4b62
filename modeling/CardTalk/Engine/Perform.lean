/-
Carrying out a command.

A command evaluates its expressions and finds its targets when it is carried out.  What
it changes in the scene is shown and saved at once.  A target that does not exist is no
fault: the log gets a warning and nothing else happens.
-/
import CardTalk.Engine.Navigation
import CardTalk.Expr.Eval
import CardTalk.Script.Command

namespace CardTalk.Handler

open Engine

/-! ### Expressions, variables and targets -/

/-- What expressions are evaluated against. -/
def view : Handler View := do
  let (e, c) ← get
  return ⟨e.scene, ⟨e.registers, c⟩, e.surroundings⟩

/-- The value of an expression. -/
def evaluate (source : Text) : Handler Text := do
  (Expr.evaluate (← view) source : Except Fault _)

/-- The number that the value of an expression starts with, or zero. -/
def number (source : Text) : Handler Float := do
  return numberOrZero (← evaluate source)

/-- Changes the variables. -/
def changeVariables (f : Variables → Variables) : Handler Unit :=
  modify fun s =>
    let v := f ⟨s.1.registers, s.2⟩
    ({ s.1 with registers := v.registers }, v.context)

/-- The entity that a target means, with its place. -/
def target? (t : Text) : Handler (Option (Place × Entity)) := do
  let v ← view
  let place ← (v.scene.resolveTarget v.bindings t : Except Fault _)
  return place.bind fun p => (v.scene.entity? p).map fun e => (p, e)

/-! ### Putting -/

/-- The value of a container after a value is put into it. -/
def combined (p : Preposition) (old value : Text) : Text :=
  match p with
  | .into => value
  | .before => value ++ old
  | .after => old ++ value

open Search in
/-- A field as a container: the layer it is on, if one is given, and its name. -/
def fieldForm : Search (Option Layer × Text) := do
  let layer ← optional (do let layer ← Target.layerWord; blanks1; return layer)
  Search.or (word "field") (word "fld")
  blanks1
  let name ← rest1
  return (layer, name)

/-- Whether a name is written between quotes, or at least begins so. -/
def isQuoted (name : Text) : Bool :=
  match Text.trim name with
  | c :: _ => c == '"' || c == '\''
  | [] => false

/-- Puts a value into the field with a name. -/
def putIntoField (layer : Option Layer) (name value : Text) (p : Preposition) : Handler Unit := do
  let v ← view
  let place ← (v.scene.findObjectOrHeld v.bindings (Quote.strip name) (some .field) layer
    (!isQuoted name) : Except Fault _)
  match place.bind fun place => (v.scene.entity? place).map fun e => (place, e) with
  | some (place, .part part) =>
    let content := combined p (part.content?.getD []) value
    changeScene fun s => s.replace place (.part (part.withContent content))
    notifyChanged
  | _ => warn (("put: could not find field " : Text) ++ name)

/-- Puts a value into a container: the register `it`, a field or a variable. -/
def putInto (container value : Text) (p : Preposition) : Handler Unit := do
  if Text.lower container = "it" then
    setIt (combined p (← get).1.registers.it value)
  else
    match fieldForm.first? container with
    | some (layer, name) => putIntoField layer name value p
    | none =>
      if !container.isEmpty && container.all Text.isWord then
        changeVariables fun v =>
          v.assign container (combined p ((v.lookup? container).getD []) value)
      else warn (("put: unrecognized container " : Text) ++ container)

/-! ### Setting -/

/-- The scene after a property without a target is set: some belong to the current card
and some to the stack. -/
def setSceneProperty (s : Scene) (property value : Text) : Except Fault (Option Scene) := do
  let onCard := fun change : Card → Card => do
    return some (s.replace (.card s.current) (.card (change (← s.currentCard))))
  let key := Property.canonical property
  if key = "backgroundcolor" then onCard fun c => { c with backgroundColor := some value }
  else if key = "cardname" then onCard fun c => { c with name := value }
  else if key = "backdropcolor" then
    return some { s with stack := { s.stack with backdropColor := value } }
  else if key = "patterncolor" then
    return some { s with stack := { s.stack with patternColor := value } }
  else return none

/-- Sets a property of an entity; whether it was set.  The log is told of an attempt to
write what is read only. -/
def setProperty (place : Place) (e : Entity) (property value : Text) : Action Engine Bool := do
  match e.setProperty property value with
  | .made e' =>
    changeScene fun s => s.replace place e'
    return true
  | .failed e' f =>
    changeScene fun s => s.replace place e'
    Action.fail f
  | .refused => return false
  | .readOnly name =>
    warn (("Property '" : Text) ++ name ++ "' is read-only")
    return false

/-- Sets a property of a target. -/
def setOf (property target value : Text) : Handler Unit := do
  match ← target? target with
  | none => warn (("set: could not find target " : Text) ++ Text.trim target)
  | some (place, e) =>
    if ← setProperty place e property value then notifyChanged
    else
      warn (("set: " : Text) ++ Text.trim target ++ " has no writable property "
        ++ Text.trim property)

/-- Sets a property of the card or the stack. -/
def setWithoutTarget (property value : Text) : Handler Unit := do
  match ← (setSceneProperty (← get).1.scene property value : Except Fault _) with
  | some s =>
    changeScene fun _ => s
    notifyChanged
  | none => warn (("set: no target for property " : Text) ++ Text.trim property)

/-! ### The other commands -/

/-- Shows an object, or hides it if the verb is any other than `show`. -/
def appear (verb target : Text) : Handler Unit := do
  match ← target? target with
  | some (place, .part p) =>
    changeScene fun s => s.replace place (.part { p with visible := verb = "show" })
    notifyChanged
  | _ => warn (verb ++ ": could not find " ++ Text.trim target)

/-- Prepares an animation of an entity for the next rendering. -/
def animate (target effect : Text) : Handler Unit := do
  match ← target? target with
  | none => warn (("animate: could not find " : Text) ++ Text.trim target)
  | some (_, e) =>
    changeScene fun s => { s with animations := s.animations.put e.id effect }
    render

/-- The seconds that a number of ticks takes.  A number of zero is a whole one here. -/
def secondsOfTicks (ticksPerSecond : Data) (amount : Float) : Except Fault Float :=
  let zero := amount == 0
  match Quantity.ofData? ticksPerSecond with
  | none => .error (.notDivisible (if zero then "int" else "float") ticksPerSecond.typeName)
  | some (.int n) =>
    if n = 0 then .error (.noTicks !zero)
    else if zero then .ok 0
    else do return amount / (← Number.ofInt n)
  | some (.float x) => if x == 0 then .error (.noTicks true) else .ok (amount / x)

/-- Waits for a time, or not at all if it is negative. -/
def wait (amount : Text) (seconds : Bool) : Handler Unit := do
  let amount ← number amount
  let time ← if seconds then pure amount
    else (secondsOfTicks (← get).1.settings.ticksPerSecond amount : Except Fault _)
  sleep (if time > 0 then time else 0)

/-- The destination that the argument of `go` means: digits are a card's number. -/
def destination (t : Text) : Except Fault Value :=
  if !t.isEmpty && t.all Text.isDigit then do return .int (← (Value.text t).toInt)
  else .ok (.text t)

/-- Sends an event: to an object, and from there on to all that may handle it, or to just
one card, background or stack. -/
def send (dispatch : Dispatch) (event : Text) (target : Option Text) : Handler Unit := do
  match target with
  | none => let _ ← offerWith dispatch event none
  | some t =>
    match ← target? t with
    | none => warn (("send: could not find " : Text) ++ Text.trim t)
    | some (_, .part p) => let _ ← offerWith dispatch event (some p.id)
    | some (_, e) => let _ ← dispatch event e.script (some e.id)

/-- Carries out a command. -/
def perform (dispatch : Dispatch) : Command → Handler Unit
  | .assign name value => do
    let v ← evaluate value
    changeVariables fun vs => vs.assign name v
  | .go t => do goToWith dispatch (← (destination t : Except Fault _))
  | .put value none => do setIt (← evaluate value)
  | .put value (some (p, container)) => do putInto container (← evaluate value) p
  | .getUrl url => do fetchIntoIt "get url" (← evaluate url)
  | .get value => do setIt (← evaluate value)
  | .set property target value => do
    let v := Color.expandTriple (← evaluate value)
    match target with
    | some t => setOf property t v
    | none => setWithoutTarget property v
  | .setIncomplete statement => warn (("set: missing 'to' in " : Text) ++ statement)
  | .appear verb target => appear verb target
  | .answer message => do alert [] (← evaluate message)
  | .ask message => do setIt ((← prompt (← evaluate message)).getD [])
  | .log message => do Engine.log .info (← evaluate message)
  | .beep => beep
  | .wait amount seconds => wait amount seconds
  | .openUrl url => do openUrl (← evaluate url)
  | .visual effect => changeScene fun s => { s with transition := some effect }
  | .animate target effect => animate target effect
  | .animateIncomplete statement => warn (("animate: missing 'with' in " : Text) ++ statement)
  | .find term field => do let _ ← findWith dispatch (← evaluate term) field
  | .declare names => changeVariables fun vs => names.foldl Variables.declare vs
  | .send event target => send dispatch event target

/-- Carries out a statement; whether it is a command. -/
def execute (dispatch : Dispatch) (statement : Text) : Handler Bool := do
  match Command.ofStatement? statement with
  | some c =>
    perform dispatch c
    return true
  | none =>
    warn (("Unrecognized statement: " : Text) ++ statement)
    return false

end CardTalk.Handler
