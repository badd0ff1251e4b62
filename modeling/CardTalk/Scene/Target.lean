/-
What a script means by the words for a target.

A target is written as `me`, as `this card`, as a kind of container or object with a name
such as `card field "Notes"`, or just as the name of an object.  A name without quotes
that no object has may also be a variable that holds the name.
-/
import CardTalk.Scene.Basic
import CardTalk.Variables
import CardTalk.Quote
import CardTalk.Text.Search
import CardTalk.Number.Reading

namespace CardTalk

/-- Where objects are looked for when a script says so. -/
inductive Layer where
  | card | background
  deriving DecidableEq, Repr

/-- The layer with a given word. -/
def Layer.ofWord? (word : Text) : Option Layer :=
  List.lookup word
    [(("card" : Text), card), ("cd", card), ("bg", background), ("background", background)]

/-- What a target names. -/
inductive Target where
  /-- The object that the event came from. -/
  | origin
  | stack
  /-- A card by number or name, or the current one. -/
  | card (name : Option Text)
  | background (name : Option Text)
  /-- An object; `bare` says that its name is not in quotes. -/
  | object (layer : Option Layer) (kind : Option Part.Kind) (name : Text) (bare : Bool)
  /-- An object of a kind whose word, here in lower case, only reads as one. -/
  | misspelled (word : Text)
  deriving DecidableEq, Repr

namespace Target

open Search

/-- The words for a layer. -/
def layerWord : Search Layer :=
  anyOf [("card", .card), ("cd", .card), ("bg", .background), ("background", .background)]

/-- The words for a kind of object; two of them stand for any kind. -/
def kinds : List (Text × Option Part.Kind) :=
  [("button", some .button), ("btn", some .button), ("field", some .field),
    ("fld", some .field), ("image", some .image), ("audio", some .audio),
    ("embed", some .embed), ("emoji", some .emoji), ("obj", none), ("object", none)]

/-- A word for a kind of object in any case, as it is written. -/
def kindWord : Search Text := do return (← span (anyOf kinds)).1

/-- A name between two quotes `q`, which may have such quotes inside it. -/
def quotedName (q : Char) : Search Text := do
  let _ ← oneOf (· == q)
  let (name, _) ← upTo inLine (oneOf (· == q))
  return name

/-- A name up to the end; the truth value says that it has no quotes around it. -/
def name : Search (Text × Bool) :=
  Search.or (do return (← quotedName '"', false))
    (Search.or (do return (← quotedName '\'', false))
      (do return (← run1 fun c => !Text.isBlank c, true)))

/-- The container that a word in lower case means: one that is spelled with letters that
only read as those of `stack` means a background. -/
def ofContainer (word : Text) (name : Option Text) : Target :=
  if word = "stack" then .stack
  else if word = "card" ∨ word = "cd" then .card name
  else .background name

/-- A word for a container, possibly with a name after it. -/
def containerForm : Search Target := do
  let _ ← optional (do word "this"; blanks1)
  let (container, _) ← span
    (anyOf [("card", ()), ("cd", ()), ("bg", ()), ("background", ()), ("stack", ())])
  let name ← optional (do blanks1; name)
  ending
  return ofContainer (Text.lower container) (name.map Prod.fst)

/-- The object with a name whose kind is given by a word in lower case.  One that is spelled
with letters that only read as those of a kind is no word for it. -/
def ofKindWord (layer : Option Layer) (word name : Text) (bare : Bool) : Target :=
  match List.lookup word kinds with
  | some kind => .object layer kind name bare
  | none => .misspelled word

/-- A word for a kind of object with a name after it and possibly a layer before it. -/
def objectForm : Search Target := do
  let layer ← optional (do let layer ← layerWord; blanks1; return layer)
  let word ← kindWord
  blanks1
  let (name, bare) ← name
  ending
  return ofKindWord layer (Text.lower word) name bare

/-- The words for the object that the event came from. -/
def originForm : Search Target := do
  word "this"
  blanks1
  let _ ← kindWord
  ending
  return .origin

/-- What a text names.  A text of no particular form is the name of an object. -/
def ofText (t : Text) : Target :=
  let spec := Text.trim t
  if Text.lower spec = "me" then .origin
  else
    ((originForm.first? spec).or ((containerForm.first? spec).or (objectForm.first? spec))).getD
      (.object none none (Quote.strip spec) false)

end Target

namespace Scene

/-- The object with a name: on the current card or its background if no layer is given,
and on that layer otherwise. -/
def findObject (s : Scene) (name : Text) (kind : Option Part.Kind) (layer : Option Layer) :
    Except Fault (Option Place) := do
  match layer with
  | none => s.findByName name kind
  | some .card =>
    let parts := (← s.currentCard).placed s.current
    return find parts
  | some .background =>
    match ← s.currentBackground with
    | some (i, b) => return find (b.placed i)
    | none => return none
where
  /-- The first of the objects that is of the kind and answers to the name. -/
  find (parts : List (Place × Part)) : Option Place :=
    (parts.find? fun r => kind.all (· == r.2.kind) && r.2.answersTo name).map Prod.fst

/-- The object with a name and a kind given by its word.  A word for no kind is a fault
when all layers are searched, and finds nothing on one layer. -/
def findObjectOfKind (s : Scene) (name word : Text) (layer : Option Layer) :
    Except Fault (Option Place) :=
  match Part.Kind.ofName? word, layer with
  | some kind, _ => s.findObject name (some kind) layer
  | none, none => .error (.unknownKind (Text.quoted word))
  | none, some _ => do
    let _ ← s.currentCard
    return none

/-- The object with a name, or with the name that the variable of that name holds. -/
def findObjectOrHeld (s : Scene) (v : Variables) (name : Text) (kind : Option Part.Kind)
    (layer : Option Layer) (bare : Bool) : Except Fault (Option Place) := do
  match ← s.findObject name kind layer with
  | some place => return some place
  | none =>
    match if bare then v.lookup? name else none with
    | none | some [] => return none
    | some held => s.findObject held kind layer

/-- The card that a number or a name in a target means; it is the current one if there is
no such card. -/
def cardNamed (s : Scene) (name : Text) : Except Fault Place := do
  let number ←
    if !name.isEmpty && name.all Text.isDigit then Number.leadingInt? name else .ok none
  match number.filter fun n : Int => decide (1 ≤ n ∧ n ≤ s.cards.length) with
  | some n => return .card (n - 1).toNat
  | none =>
    match s.findCard? name with
    | some i => return .card i
    | none =>
      let _ ← s.currentCard
      return .card s.current

/-- The entity that a target means. -/
def locate (s : Scene) (v : Variables) : Target → Except Fault (Option Place)
  | .origin => s.findById v.context.origin
  | .stack => .ok (some .stack)
  | .card none => do
    let _ ← s.currentCard
    return some (.card s.current)
  | .card (some name) => do return some (← s.cardNamed name)
  | .background none => do return (← s.currentBackground).map fun b => .background b.1
  | .background (some name) => .ok ((s.findBackground? name).map .background)
  | .object layer kind name bare => s.findObjectOrHeld v name kind layer bare
  | .misspelled word => .error (.misspelledKind (Text.quoted word))

/-- The entity that the text of a target means. -/
def resolveTarget (s : Scene) (v : Variables) (t : Text) : Except Fault (Option Place) :=
  s.locate v (Target.ofText t)

end Scene

end CardTalk
