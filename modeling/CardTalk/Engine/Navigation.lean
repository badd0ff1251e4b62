/-
Events on their way through the scene, and what makes them: going to a card and finding a
text.

An event is offered to the object it came from, the card, its background and the stack,
until a handler for it has run.  Going to another card offers an event before and another
one after the move.  How a script is run is a parameter here, because handlers can in
turn send events and go to cards.
-/
import CardTalk.Engine.Basic
import CardTalk.Scene.Navigation

namespace CardTalk

/-- A way to run the handler for an event in a script, on behalf of an object: whether
there was one and it ran to its end. -/
abbrev Dispatch := (event script : Text) → (origin : Option Text) → Action Engine Bool

/-- Whom an event is offered to, in order. -/
def Scene.candidates (s : Scene) (origin : Option Text) : Except Fault (List Place) := do
  let found ← s.findById origin
  let object := found.toList.filter fun place => (s.entity? place).any Entity.isPart
  let card ← s.currentCard
  let background := match s.backgroundOf card with
    | some (i, _) => [Place.background i]
    | none => []
  return object ++ [.card s.current] ++ background ++ [.stack]

/-- The script of whatever a reference means, as it is now. -/
def Scene.scriptOf (s : Scene) (r : Reference) : Text :=
  ((s.referred? r).map Entity.script).getD []

namespace Engine

/-- Deletes the current card unless it is the only one; whether it did. -/
def deleteCard : Action Engine Bool := do
  match ← ((← get).scene.deleteCard : Except Fault _) with
  | some s =>
    changeScene fun _ => s
    return true
  | none =>
    warn "Cannot delete the only card"
    return false

/-- Goes to a position without telling anyone.  A position outside the cards is a fault,
but only after the move. -/
def moveTo (i : Nat) (back : Bool) : Action Engine Unit := do
  let before := (← get).scene.current
  changeScene fun s => s.moveTo i back
  if i ≠ before then
    let _ ← ((← get).scene.cardAt i : Except Fault _)

variable (dispatch : Dispatch)

/-- Offers an event to one after the other until one handles it. -/
def offerTo (event : Text) (origin : Option Text) : List Reference → Action Engine Bool
  | [] => return false
  | candidate :: rest => do
    if ← dispatch event ((← get).scene.scriptOf candidate) origin then return true
    else offerTo event origin rest

/-- Offers an event from an object, or from the card, to all that may handle it. -/
def offerWith (event : Text) (origin : Option Text) : Action Engine Bool := do
  let s := (← get).scene
  let candidates ← (s.candidates origin : Except Fault _)
  offerTo dispatch event origin (candidates.map s.refer)

/-- Goes to a card.  Nothing happens when it is the current one already, except that going
back takes an entry out of the history. -/
def goToWith (destination : Value) : Action Engine Unit := do
  let s := (← get).scene
  let back := Scene.isBack destination
  let i ← (s.resolve destination : Except Fault _)
  if i = s.current then
    if back then moveTo i true
  else
    let _ ← offerWith dispatch "closeCard" none
    moveTo i back
    notifyChanged
    let _ ← offerWith dispatch "openCard" none

/-- Shows a hit: goes to its card, puts its content into `it` and makes it stand out. -/
def showHit (cursor : Find.Cursor) (hit : Find.Hit) : Action Engine Unit := do
  modify fun e =>
    { e with cursor := { cursor with card := some hit.card, object := some hit.object } }
  if hit.card ≠ (← get).scene.current then goToWith dispatch (.int (hit.card + 1))
  setIt (hit.content (← get).scene)
  highlight hit.part.id

/-- Finds the next field that holds a term, among those with a name if one is given that
is not empty. -/
def findWith (term : Text) (field : Option Text) : Action Engine Bool := do
  let term := Text.lower term
  if term.isEmpty then return false
  else
    let e ← get
    let cursor := e.cursor.resume e.scene term
    set { e with cursor }
    let named := field.filter fun name => !name.isEmpty
    match ← (cursor.next? e.scene named : Except Fault _) with
    | some hit =>
      showHit dispatch cursor hit
      return true
    | none =>
      modify fun e => { e with cursor := {} }
      beep
      alert "Find" (("Could not find \"" : Text) ++ term ++ "\" in any fields.")
      return false

end Engine

end CardTalk
