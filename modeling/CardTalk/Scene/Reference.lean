/-
Entities that stay the same.

A place says where an entity is now.  Whatever goes on for longer than that, such as a
search that is interrupted by handlers, holds a reference: it means the same entity after
cards have been added and removed, and even after its own card has been removed.
-/
import CardTalk.Scene.Basic

namespace CardTalk

/-- An entity by its place after a number of edits of the cards. -/
structure Reference where
  place : Place
  edits : Nat
  deriving DecidableEq, Repr

namespace Place

/-- The place after a card has been added at a position. -/
def afterAdding (position : Nat) : Place → Place
  | card i => card (if i < position then i else i + 1)
  | cardPart i k => cardPart (if i < position then i else i + 1) k
  | place => place

/-- The place after the card at a position has been removed; there is none for the card
itself and what lies on it. -/
def afterRemoving (position : Nat) : Place → Option Place
  | card i => if i = position then none else some (card (if i < position then i else i - 1))
  | cardPart i k =>
    if i = position then none else some (cardPart (if i < position then i else i - 1) k)
  | place => some place

/-- The place after some edits, the earliest first; there is none once its card has been
removed. -/
def afterAll (place : Place) : List Edit → Option Place
  | [] => some place
  | .added position :: later => (place.afterAdding position).afterAll later
  | .removed position _ :: later =>
    (place.afterRemoving position).bind fun place => place.afterAll later
  | .moved _ _ :: later => place.afterAll later

/-- The entity at a place that is on a card, or is the card itself. -/
def on? (c : Card) : Place → Option Entity
  | card _ => some (.card c)
  | cardPart _ k => c.parts[k]?.map .part
  | _ => none

end Place

namespace Scene

/-- A reference to the entity that is at a place now. -/
def refer (s : Scene) (place : Place) : Reference := ⟨place, s.edits.length⟩

/-- The entity that was at a place before some edits, the earliest first. -/
def through (s : Scene) (place : Place) : List Edit → Option Entity
  | [] => s.entity? place
  | .added position :: later => s.through (place.afterAdding position) later
  | .removed position c :: later =>
    match place.afterRemoving position with
    | some place => s.through place later
    | none => place.on? c
  | .moved _ _ :: later => s.through place later

/-- The entity that a reference means, as it is now or was when its card was removed. -/
def referred? (s : Scene) (r : Reference) : Option Entity :=
  s.through r.place (s.edits.take (s.edits.length - r.edits)).reverse

/-- Where the entity is now that a reference means. -/
def placeOf? (s : Scene) (r : Reference) : Option Place :=
  r.place.afterAll (s.edits.take (s.edits.length - r.edits)).reverse

/-- The scene with something else made of the entity that a reference means; nothing changes
where it has been removed, or would become something of another kind. -/
def rewrite (s : Scene) (r : Reference) (change : Entity → Entity) : Scene :=
  ((s.placeOf? r).bind fun place =>
    (s.entity? place).map fun x => s.replace place (change x)).getD s

end Scene

end CardTalk
