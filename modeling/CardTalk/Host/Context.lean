/-
The runs of host-mode scripts.

For each run a context is opened, which gathers what the script notes for later.  While the
script runs, the scene is not edited and the user goes nowhere: the methods that would do so
only note it, and all the others take effect at once.
-/
import CardTalk.Engine.Basic
import CardTalk.Scene.Navigation

namespace CardTalk.Host

/-! ### Contexts -/

/-- Opens a context, in which nothing has been noted yet. -/
def openContext : Action Engine Nat :=
  modifyGet fun e => (e.hostNotes.length, { e with hostNotes := e.hostNotes ++ [[]] })

/-- What has been noted in a context. -/
def noted (context : Nat) (e : Engine) : List Deferred := e.hostNotes[context]?.getD []

/-- Notes an action for later. -/
def note (context : Nat) (d : Deferred) : Action Engine Result := do
  modify fun e => { e with hostNotes := e.hostNotes.modify context (· ++ [d]) }
  return nothing

/-- Forgets what has been noted in a context. -/
def forget (context : Nat) : Action Engine Unit :=
  modify fun e => { e with hostNotes := e.hostNotes.modify context fun _ => [] }

/-! ### Methods -/

/-- The destination that a value means: a whole number is one however it is given. -/
def destination (v : Value) : Except Fault Value :=
  match v with
  | .float x => do
    let n ← Number.truncate x
    return if Number.isWhole x then .int n else .float x
  | _ => .ok v

/-- Calls a method on the scene of a context. -/
def Method.call (context : Nat) (method : Method) (args : List Value) : Action Engine Result := do
  let () ← (method.check args : Except Fault _)
  let first := args.head?.getD .null
  let e ← get
  match method with
  | currentCard =>
    let _ ← (e.scene.currentCard : Except Fault _)
    return .entity (e.scene.refer (.card e.scene.current))
  | currentStack => return .entity (e.scene.refer .stack)
  | currentIndex => return .value (.int (e.scene.current + 1))
  | cards =>
    return .entities ((List.range e.scene.cards.length).map fun i => e.scene.refer (.card i))
  | findObject =>
    match ← (e.scene.findByName first.shown none : Except Fault _) with
    | some place => return .entity (e.scene.refer place)
    | none => return nothing
  | getIt => return .value (.text e.registers.it)
  | setIt =>
    Engine.setIt (← (first.toText : Except Fault _))
    return nothing
  | log =>
    let shown ← (args.mapM Value.toText : Except Fault _)
    Engine.log .info (Text.joined " " shown)
    return nothing
  | go => note context (.go (← (destination first : Except Fault _)))
  | addCard =>
    let name := Data.value first
    note context (.addCard (if name.isBlank then none else some name.toText))
  | deleteCard => note context .deleteCard
  | alert => note context (.alert (← (first.toText : Except Fault _)))
  | fetch => note context (.fetch first.shown)
  | prompt => note context (.prompt (← (first.toText : Except Fault _)))

/-- Calls a method by its name. -/
def callByName (context : Nat) (name : Text) (args : List Value) : Action Engine Result := do
  let method ← (methodNamed name : Except Fault _)
  method.call context args

/-! ### Scripts -/

/-- Does what a chunk does. -/
def Chunk.run {α : Type} : Chunk α → Action Engine α
  | ends a => return a
  | calls context method args next => do
    let outcome ← Action.attempt (method.call context args)
    (next outcome).run
  | sees r next => do
    let e ← get
    (next (e.scene.referred? r)).run
  | writes r change next => do
    Engine.changeScene fun s => s.rewrite r change
    next.run
  | reaches change next => do
    let e ← get
    let (interior, events) := change e.toInterior
    set { e with toInterior := interior, trace := events ++ e.trace }
    (next interior).run

/-- Runs a script for an event in a context that has been opened for it. -/
def runIn (context : Nat) (script event : Text) (origin : Option Text) : Action Engine Unit := do
  let e ← get
  let (ending, memory) ←
    (e.world.host e.trace (e.hostMemory.given context event origin) script).run
  modify fun e => { e with hostMemory := memory }
  (ending.outcome : Except Fault _)

end CardTalk.Host
