/-
Searching the fields of all cards.

A search goes once around the cards, from the card where the last hit was, or from the
current card when the term is new.  On that first card it starts behind the last hit, on
all others at the first object.  So asking for the same term again finds the next hit.
-/
import CardTalk.Scene.Reference

namespace CardTalk.Find

/-- Where the last search for a term ended. -/
structure Cursor where
  /-- The term in lower case; empty when there is no search to go on with. -/
  term : Text := []
  card : Option Nat := none
  /-- The last hit among the objects of the card; none before the first hit. -/
  object : Option Nat := none
  deriving DecidableEq, Repr

/-- A field that holds the term. -/
structure Hit where
  card : Nat
  /-- The position among the objects seen on the card. -/
  object : Nat
  /-- The field itself, whatever becomes of its card. -/
  reference : Reference
  part : Part
  deriving DecidableEq

/-- The cursor to start from: the one there is if it is for this term, and otherwise a new
one at the current card. -/
def Cursor.resume (c : Cursor) (s : Scene) (term : Text) : Cursor :=
  if c.term = term then c else { term, card := some s.current, object := none }

/-- The cards to search, in order, each with the position of its first object to look at. -/
def Cursor.route (c : Cursor) (s : Scene) : List (Nat × Nat) :=
  let start := c.card.getD 0
  (List.range s.cards.length).map fun step =>
    let i := (start + step) % s.cards.length
    (i, if i = start then (c.object.map (· + 1)).getD 0 else 0)

/-- Whether an object is a field that holds the term, and the one that is asked for if one
is. -/
def holds (term : Text) (field : Option Text) (p : Part) : Bool :=
  match p.content? with
  | none => false
  | some content =>
    field.all (fun name => p.answersTo name) && Text.contains term (Text.lower content)

/-- The first hit on a card from a position on. -/
def hitOn (s : Scene) (term : Text) (field : Option Text) (card first : Nat) :
    Except Fault (Option Hit) := do
  let parts := (← s.placedOn card).drop first
  return do
    let k ← parts.findIdx? fun r => holds term field r.2
    let (place, part) ← parts[k]?
    return { card, object := first + k, reference := s.refer place, part }

/-- The next hit for a cursor. -/
def Cursor.next? (c : Cursor) (s : Scene) (field : Option Text) : Except Fault (Option Hit) :=
  (c.route s).findSomeM? fun r => hitOn s c.term field r.1 r.2

/-- The content of a hit as it is now. -/
def Hit.content (h : Hit) (s : Scene) : Text :=
  let now := match s.referred? h.reference with
    | some (.part p) => p.content?
    | _ => none
  now.getD (h.part.content?.getD [])

end CardTalk.Find
