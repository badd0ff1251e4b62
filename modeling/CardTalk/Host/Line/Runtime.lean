/-
A small language for host-mode scripts: its runtime.

The lines of a script are run in order.  An error in a line carries its number, and a line that
is no statement is found before any of them is run.
-/
import CardTalk.Host.Line
import CardTalk.Scene.Attribute
import CardTalk.World

namespace CardTalk.Host.Line

/-! ### Steps -/

/-- Something that a script does: it has the memory, and may come to its end early. -/
def Step (α : Type) : Type := Memory → Chunk (Except Ending α × Memory)

namespace Step

variable {α : Type}

instance : Monad Step where
  pure a := fun m => .ends (.ok a, m)
  bind s next := fun m => (s m).bind fun r =>
    match r.1 with
    | .ok a => next a r.2
    | .error ending => .ends (.error ending, r.2)

instance : MonadLift (Except Ending) Step := ⟨fun outcome m => .ends (outcome, m)⟩

/-- Stops the script. -/
def stop (ending : Ending) : Step α := fun m => .ends (.error ending, m)

/-- What a global variable holds, if anything. -/
def held? (name : Text) : Step (Option Held) := fun m => .ends (.ok (m.globals.get? name), m)

/-- Gives a global variable something to hold. -/
def hold (name : Text) (h : Held) : Step Unit :=
  fun m => .ends (.ok (), { m with globals := m.globals.put name h })

/-- Calls a method; its fault is one of the script. -/
def call (context : Nat) (method : Method) (args : List Value) : Step Held := fun m =>
  .calls context method args fun outcome =>
    .ends (match outcome with
      | .ok r => (.ok (.ofResult r), m)
      | .error f => (.error (.raised f), m))

/-- Looks at an entity. -/
def see (r : Reference) : Step (Option Entity) := fun m => .sees r fun x => .ends (.ok x, m)

end Step

/-! ### Values -/

/-- An error in a line. -/
def errorAt (line : Nat) (words : Text) : Ending :=
  .failed (("[string \"<python>\"]:" : Text) ++ Text.ofNat line ++ ": " ++ words)

/-- The name of a type inside a script. -/
def typeName : Held → Text
  | .value .null => "nil"
  | .value (.logical _) => "boolean"
  | .value (.int _) | .value (.float _) => "number"
  | .value (.text _) => "string"
  | .entity _ | .scene _ => "POBJECT"
  | .entities _ => "table"

/-- The largest position that an error message calls an integer index. -/
def largestIndex : Int := 255

/-- How an error message refers to an item by its index. -/
def indexName : Expr → Text
  | .constant (.int n) => if 0 ≤ n ∧ n ≤ largestIndex then "integer index" else "?"
  | .constant (.text t) => t
  | _ => "?"

/-- How an error message refers to the expression whose value is of the wrong type. -/
def reference : Expr → Text
  | .global name => (" (global '" : Text) ++ name ++ "')"
  | .field _ name => (" (field '" : Text) ++ name ++ "')"
  | .item _ index => (" (field '" : Text) ++ indexName index ++ "')"
  | _ => []

/-- An attempt that the type of a value does not allow. -/
def typeError (line : Nat) (attempt : Text) (e : Expr) (h : Held) : Ending :=
  errorAt line (("attempt to " : Text) ++ attempt ++ " a " ++ typeName h ++ " value" ++ reference e)

/-- Nothing to hold. -/
def nothing : Held := .ofResult Host.nothing

/-- The value that an attribute gives to a script. -/
def valueOf : Attribute → Value
  | .text t => .text t
  | .flag b => .logical b
  | .number (.int n) => .int n
  | .number (.float x) => .float x
  | _ => .null

/-- A field of a value, which has to be an entity; a text and a scene have none of their own. -/
def fieldOf (line : Nat) (e : Expr) (name : Text) : Held → Step Held
  | .entity r => do
    let x ← Step.see r
    let given := do (← x).read (← Attribute.Name.ofKey? name)
    return .value ((given.map valueOf).getD .null)
  | .value (.text _) | .scene _ => return nothing
  | h => Step.stop (typeError line "index" e h)

/-- The position, counted from one, that an index means: a whole number however it is
given. -/
def position? : Held → Option Nat
  | .value (.int n) => if 1 ≤ n then some (n - 1).toNat else none
  | .value (.float x) =>
    if Number.isWhole x && x ≥ 1 then (Number.whole? x).map fun n => (n - 1).toNat else none
  | _ => none

/-- An item of a value, which has to be a list. -/
def itemOf (line : Nat) (e : Expr) (h i : Held) : Except Ending Held :=
  match h with
  | .entities rs => .ok ((((position? i).bind fun k => rs[k]?).map Held.entity).getD nothing)
  | .value (.text _) => .ok nothing
  | _ => .error (typeError line "index" e h)

/-- The length of a list or of a text in bytes. -/
def lengthOf (line : Nat) (e : Expr) (h : Held) : Except Ending Held :=
  match h with
  | .entities rs => .ok (.value (.int rs.length))
  | .value (.text t) => .ok (.value (.int (String.ofList t).utf8ByteSize))
  | _ => .error (typeError line "get length of" e h)

/-- How a script writes a floating-point number: with fourteen digits at most, and
positional while it has no more digits before its point. -/
def numberText (x : Float) : Text :=
  { Layout.plain with mostPositional := 13 }.textWith (Decimal.rounded 14) x

/-- The text that a value gives when it is joined. -/
def joinable? : Held → Option Text
  | .value (.text t) => some t
  | .value (.int n) => some (Text.ofInt n)
  | .value (.float x) => some (numberText x)
  | _ => none

/-- Two values joined; of two that cannot be, the left one is at fault. -/
def joinOf (line : Nat) (left right : Expr) (a b : Held) : Except Ending Held :=
  match joinable? a, joinable? b with
  | some t, some u => .ok (.value (.text (t ++ u)))
  | none, _ => .error (typeError line "concatenate" left a)
  | _, none => .error (typeError line "concatenate" right b)

/-- What is held as an argument. -/
def argument : Held → Value
  | .value v => v
  | _ => .null

/-! ### Expressions -/

/-- The method with a name on the scene that a global variable holds, with the context of that
scene. -/
def methodOf (line : Nat) (holder name : Text) : Step (Nat × Method) := do
  match ← Step.held? holder with
  | some (.scene context) =>
    match methodNamed name with
    | .ok method => return (context, method)
    | .error f => Step.stop (.raised f)
  | h =>
    let field ← fieldOf line (.global holder) name (h.getD nothing)
    Step.stop (typeError line "call" (.field (.global holder) name) field)

mutual

/-- The value of an expression. -/
def eval (line : Nat) : Expr → Step Held
  | .constant v => return .value v
  | .global name => do return (← Step.held? name).getD nothing
  | .call holder name args => do
    let (context, method) ← methodOf line holder name
    Step.call context method (← evalAll line args)
  | .field e name => do fieldOf line e name (← eval line e)
  | .item e index => do
    let h ← eval line e
    (itemOf line e h (← eval line index) : Except Ending _)
  | .length e => do (lengthOf line e (← eval line e) : Except Ending _)
  | .join left right => do
    let a ← eval line left
    let b ← eval line right
    (joinOf line left right a b : Except Ending _)

/-- The values of arguments, in order. -/
def evalAll (line : Nat) : List Expr → Step (List Value)
  | [] => return []
  | e :: rest => do
    let h ← eval line e
    return argument h :: (← evalAll line rest)

end

/-! ### Scripts -/

/-- Runs a statement. -/
def run (line : Nat) : Statement → Step Unit
  | .assign name e => do Step.hold name (← eval line e)
  | .call holder name args => do
    let (context, method) ← methodOf line holder name
    let _ ← Step.call context method (← evalAll line args)
  | .error words => do
    let h ← eval line words
    match ← Step.held? "error" with
    | none => Step.stop (errorAt line ((joinable? h).getD "nil"))
    | some replacement => Step.stop (typeError line "call" (.global "error") replacement)

/-- Runs a script. -/
def runScript (script : Text) : Step Unit :=
  match statements script with
  | .error line => Step.stop (errorAt line "syntax error")
  | .ok lines => lines.forM fun s => run s.1 s.2

/-- The runtime of the language, which does the same at every moment. -/
def runtime : Runtime := fun _ memory script => do
  let (outcome, memory) ← runScript script memory
  match outcome with
  | .ok () => return (.returned, memory)
  | .error ending => return (ending, memory)

end CardTalk.Host.Line

namespace CardTalk

/-- A world in which nothing changes, with the small language for its host-mode scripts. -/
def World.still (surroundings : Surroundings) (isSlow : List Event → Bool := fun _ => false) :
    World :=
  ⟨fun _ => surroundings, isSlow, Host.Line.runtime⟩

instance : Coe Surroundings World := ⟨fun surroundings => .still surroundings⟩

end CardTalk
