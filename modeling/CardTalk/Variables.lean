/-
Variables, and the register `it`.

A variable is local to the run of one handler or global to the engine.  Names are taken
without regard to case.  A handler that has declared a name global always means the
global variable; otherwise its own local variable hides a global one of the same name,
and assigning to a name that is global and not hidden changes the global variable.
-/
import CardTalk.Text.Case
import CardTalk.Table

namespace CardTalk

/-- What outlives the run of a handler: the register `it` and the global variables, by
their names in lower case. -/
structure Registers where
  it : Text := []
  globals : Table Text := []
  deriving DecidableEq

/-- What belongs to the run of one handler. -/
structure Context where
  /-- The identifier of the object that the event came from. -/
  origin : Option Text := none
  /-- The local variables, by their names in lower case. -/
  locals : Table Text := []
  /-- The names, in lower case, that the handler has declared global. -/
  declared : List Text := []
  deriving DecidableEq

/-- The registers together with the context of a handler. -/
structure Variables where
  registers : Registers
  context : Context
  deriving DecidableEq

namespace Variables

/-- Declares a name global; a global variable that is new is empty. -/
def declare (v : Variables) (name : Text) : Variables :=
  let key := Text.lower name
  let globals := v.registers.globals
  { registers :=
      { v.registers with globals := if globals.has key then globals else globals.put key [] }
    context :=
      { v.context with
        declared := if v.context.declared.contains key then v.context.declared
          else v.context.declared ++ [key] } }

/-- Whether a name, in lower case, means the global variable when it is assigned. -/
def writesGlobal (v : Variables) (key : Text) : Bool :=
  v.context.declared.contains key || (v.registers.globals.has key && !v.context.locals.has key)

/-- Gives a variable a value. -/
def assign (v : Variables) (name value : Text) : Variables :=
  let key := Text.lower name
  if v.writesGlobal key then
    { v with registers := { v.registers with globals := v.registers.globals.put key value } }
  else
    { v with context := { v.context with locals := v.context.locals.put key value } }

/-- The value of a variable, if it has one. -/
def lookup? (v : Variables) (name : Text) : Option Text :=
  let key := Text.lower name
  if v.context.declared.contains key then some ((v.registers.globals.get? key).getD [])
  else (v.context.locals.get? key).or (v.registers.globals.get? key)

end Variables

end CardTalk
