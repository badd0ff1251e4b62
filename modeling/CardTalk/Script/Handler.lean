/-
Finding the handler for an event.

A handler is opened by a statement `on NAME` and runs up to `end NAME`, or to the end of
the script.  Names are compared without regard to case and as whole words, so the handler
for one event is not taken for that of a longer name.
-/
import CardTalk.Text.Search

namespace CardTalk.Script

open Search

/-- A statement that frames a handler: the keyword, and the name as a whole word. -/
def framing (keyword name : Text) : Search Unit := do
  word keyword
  blanks1
  word name
  wordEnd

/-- Whether a statement opens the handler for an event. -/
def opensHandler (event statement : Text) : Bool :=
  (framing "on" event).matches? statement

/-- Whether a statement ends the handler for an event. -/
def endsHandler (event statement : Text) : Bool :=
  (framing "end" event).matches? statement

/-- The position of the first statement of the first handler for an event, and the
position after its last one. -/
def handlerSpan? (statements : List Text) (event : Text) : Option (Nat × Nat) := do
  let start := (← statements.findIdx? (opensHandler event)) + 1
  return (start, start + (statements.drop start).findIdx (endsHandler event))

/-- The statements of the first handler for an event. -/
def handler? (statements : List Text) (event : Text) : Option (List Text) := do
  let (start, stop) ← handlerSpan? statements event
  return (statements.drop start).take (stop - start)

/-- The name that a statement opens a handler for. -/
def handlerName : Search Text := do
  word "on"
  blanks1
  run1 Text.isWord

/-- The names of all handlers, in order. -/
def handlerNames (statements : List Text) : List Text := statements.filterMap handlerName.first?

end CardTalk.Script
