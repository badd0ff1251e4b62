/-
Running the tree of a handler.

Statements run one after the other.  A counted loop runs as often as its header says when
it is reached, whatever its body does to the variables in it.  The other loops run until
their condition says stop, or until they have run as often as the settings allow; then
the log gets a warning and the script goes on behind the loop.  Settings that give no
number are a fault of the loop that would have to stop.
-/
import CardTalk.Engine.Perform
import CardTalk.Script.Block

namespace CardTalk.Handler

open Engine Script

/-- Whether the value of an expression counts as true. -/
def isTrue (condition : Text) : Handler Bool := do
  return isTruthy (← evaluate condition)

/-- Runs a body with a variable counting: `next` is its value in the next run and `step`
what it changes by. -/
def counting (var : Text) (step : Int) (body : Handler Unit) (next : Int) : Nat → Handler Unit
  | 0 => return
  | n + 1 => do
    changeVariables fun v => v.assign var (Text.ofInt next)
    body
    counting var step body (next + step) n

/-- Runs a body while a condition holds, at most a number of times; what is left to do
then is `giveUp`. -/
def whileHolds (condition : Handler Bool) (body giveUp : Handler Unit) : Nat → Handler Unit
  | 0 => do if ← condition then giveUp
  | n + 1 => do
    if ← condition then
      body
      whileHolds condition body giveUp n

/-- More runs than any loop is given. -/
def endless : Nat := Nat.pow 10 15

/-- How often a loop with a limit runs: as long as the number of runs is below it. -/
def runsWithin : Quantity → Nat
  | .int n => n.toNat
  | .float x =>
    match Number.truncate x with
    | .ok n => n.toNat + if x > 0 && !Number.isWhole x then 1 else 0
    | .error _ => if x < 0 then 0 else endless

/-- Runs a loop whose end is decided in every round. -/
def openEnded (header : Text) (condition : Handler Bool) (body : Handler Unit) :
    Handler Unit := do
  let given := (← get).1.settings.repeatLimit
  match Quantity.ofData? given with
  | none => whileHolds condition body (Action.fail (.notComparable ">=" "int" given.typeName)) 0
  | some limit =>
    let giveUp : Handler Unit := do
      let shown ← (limit.whole : Except Fault _)
      warn (("Repeat loop abandoned after " : Text) ++ Text.ofInt shown ++ " iterations: "
        ++ header)
    whileHolds condition body giveUp (runsWithin limit)

/-- Runs a loop. -/
def loop (header : Text) (form : Loop) (body : Handler Unit) : Handler Unit :=
  match form with
  | .times count => do
    let n ← (Number.truncate (← number count) : Except Fault _)
    Action.times body n.toNat
  | .counting var start stop down => do
    let first ← (Number.truncate (← number start) : Except Fault _)
    let last ← (Number.truncate (← number stop) : Except Fault _)
    if down then counting var (-1) body first (first - last + 1).toNat
    else counting var 1 body first (last - first + 1).toNat
  | .whileTrue condition => openEnded header (isTrue condition) body
  | .untilTrue condition => openEnded header (do return !(← isTrue condition)) body
  | .forever => openEnded header (return true) body
  | .misspelled .. | .malformed => warn (("Skipping unrecognized repeat form: " : Text) ++ header)

mutual

/-- Runs a node. -/
def runNode (dispatch : Dispatch) : Node → Handler Unit
  | .command t => do let _ ← execute dispatch t
  | .ifElse condition thenBody elseBody => do
    if ← isTrue condition then runNodes dispatch thenBody else runNodes dispatch elseBody
  | .loop header form body => loop header form (runNodes dispatch body)

/-- Runs nodes, in order. -/
def runNodes (dispatch : Dispatch) : List Node → Handler Unit
  | [] => return
  | node :: rest => do
    runNode dispatch node
    runNodes dispatch rest

end

/-- Reads statements as blocks and runs them; the log gets the warnings first. -/
def runStatements (dispatch : Dispatch) (statements : List Text) : Handler Unit := do
  (blockWarnings statements).forM fun w => (warn w : Action Engine Unit)
  runNodes dispatch (blocks statements)

end CardTalk.Handler
