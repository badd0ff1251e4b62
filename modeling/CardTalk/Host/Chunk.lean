/-
What a host-mode script does, whatever language it is written in.

Host-mode scripts are run by a runtime that is no part of this library.  All that is known of
one is which steps a script takes for it, one after the other and each with the answer to the
one before: that is a `Chunk`, and a `Runtime` is any function that gives one for a script.

The program gives a script its scene, by the number of the context that is opened for the run,
and through it the methods of `Host.Method`.  A script may keep a scene for later scripts,
since all scripts share one memory.  It can also look at the entities that it gets and write
into them, and with some art get at the inside of the engine.  A chunk comes to its end; scripts
that never do are left out.
-/
import CardTalk.Config
import CardTalk.Event
import CardTalk.Find
import CardTalk.Host.Method
import CardTalk.Presenter
import CardTalk.Variables

namespace CardTalk

/-- The parts of the engine that can be changed from inside the program. -/
structure Interior where
  scene : Scene
  /-- The scene as it was when it was last asked to be saved, or at the start. -/
  saved : Scene
  registers : Registers
  cursor : Find.Cursor
  /-- What host-mode scripts have noted for later, context by context. -/
  hostNotes : List (List Host.Deferred)
  /-- Whether an idle pass is in progress. -/
  idling : Bool
  presenter : Presenter
  settings : Settings

namespace Host

/-- What a variable of scripts can hold, as far as the program can tell. -/
inductive Held where
  | value (v : Value)
  | entity (r : Reference)
  | entities (rs : List Reference)
  /-- The scene that was given to the script of a context. -/
  | scene (context : Nat)
  deriving DecidableEq

/-- What a method has given, as something to hold. -/
def Held.ofResult : Result → Held
  | .value v => .value v
  | .entity r => .entity r
  | .entities rs => .entities rs

/-- What all scripts share. -/
structure Memory where
  /-- The global variables. -/
  globals : Table Held := []
  /-- Everything else that the runtime keeps, written down in some way of its own. -/
  rest : Text := []
  deriving DecidableEq

/-- The memory with the three variables that a script is given: its scene, the event and the
object that the event came from. -/
def Memory.given (m : Memory) (context : Nat) (event : Text) (origin : Option Text) : Memory :=
  let source := (origin.map Value.text).getD .null
  { m with
    globals := ((m.globals.put "scene" (.scene context)).put "event" (.value (.text event))).put
      "source" (.value source) }

/-- The steps of a script up to a result. -/
inductive Chunk (α : Type) where
  | ends (a : α)
  /-- Calls a method on the scene of a context. -/
  | calls (context : Nat) (method : Method) (args : List Value)
      (next : Except Fault Result → Chunk α)
  /-- Looks at an entity as it is now; there is none if the reference means nothing. -/
  | sees (r : Reference) (next : Option Entity → Chunk α)
  /-- Writes into an entity. -/
  | writes (r : Reference) (change : Entity → Entity) (next : Chunk α)
  /-- Goes past everything that scripts are offered, right into the engine. -/
  | reaches (change : Interior → Interior × List Event) (next : Interior → Chunk α)

namespace Chunk

variable {α β : Type}

/-- One chunk after the other. -/
def bind : Chunk α → (α → Chunk β) → Chunk β
  | ends a, f => f a
  | calls context method args next, f => calls context method args fun r => (next r).bind f
  | sees r next, f => sees r fun x => (next x).bind f
  | writes r change next, f => writes r change (next.bind f)
  | reaches change next, f => reaches change fun i => (next i).bind f

instance : Monad Chunk where
  pure := ends
  bind := bind

end Chunk

/-- How a script ends. -/
inductive Ending where
  | returned
  /-- With an error of the language's own. -/
  | failed (words : Text)
  /-- With a fault of something that it has called. -/
  | raised (f : Fault)
  deriving DecidableEq

/-- An error of the language's own is a fault like any other. -/
def Ending.outcome : Ending → Except Fault Unit
  | returned => .ok ()
  | failed words => .error (.hostScript words)
  | raised f => .error f

/-- What a runtime makes of a script: what it does, how it ends and what is then in the memory.
It may depend on the moment, for which all that has happened so far stands, the latest first. -/
def Runtime : Type := List Event → Memory → (script : Text) → Chunk (Ending × Memory)

end Host

end CardTalk
