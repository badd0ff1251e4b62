/-
The scene: a stack of cards, the backgrounds they lie on, and where the user is.

Cards are kept in order and the current one by its position; the history holds the
positions of the cards left behind, the latest first.  Positions are plain numbers, so
everything that looks at the current card says what happens when there is none at the
current position: it faults.

An entity is addressed by its `Place`, so that finding one and changing it are separate.
Places shift when cards are added or removed; the scene remembers what has been done to its
cards, so that `Scene.Reference` can follow an entity through it.
-/
import CardTalk.Scene.Part
import CardTalk.Table

namespace CardTalk

/-- What cards lie on: objects and a script that several cards share. -/
structure Background where
  id : Text
  name : Text
  script : Text
  backgroundColor : Text
  parts : List Part
  deriving DecidableEq

/-- A card. -/
structure Card where
  id : Text
  name : Text
  backgroundId : Text
  script : Text
  backgroundColor : Option Text
  parts : List Part
  deriving DecidableEq

/-- The size of the cards of a stack. -/
structure CardSize where
  width : Int
  height : Int
  deriving DecidableEq

/-- The stack as a whole. -/
structure Stack where
  id : Text
  name : Text
  script : Text
  cardSize : CardSize
  backdropColor : Text
  backgroundColor : Text
  patternColor : Text
  deriving DecidableEq

/-- What has been done to the cards: a card added or removed at a position, a removed one as
it was, or a move to a position, which may have been one back. -/
inductive Edit where
  | added (position : Nat)
  | removed (position : Nat) (card : Card)
  | moved (position : Nat) (back : Bool)
  deriving DecidableEq

/-- The live stack. -/
structure Scene where
  stack : Stack
  /-- In the order of their definition; no two have the same identifier. -/
  backgrounds : List Background
  cards : List Card
  /-- The position of the current card. -/
  current : Nat
  /-- The positions of the cards left behind, the latest first. -/
  history : List Nat
  /-- The transition to show at the next rendering. -/
  transition : Option Text
  /-- The animations to show at the next rendering, by the identifier of the object. -/
  animations : Table Text
  /-- How many identifiers have been handed out. -/
  issued : Nat
  /-- How cards have been added, removed and gone to, the latest first. -/
  edits : List Edit
  deriving DecidableEq

/-- Where an entity is in the scene. -/
inductive Place where
  | stack
  | background (i : Nat)
  | card (i : Nat)
  | backgroundPart (background i : Nat)
  | cardPart (card i : Nat)
  deriving DecidableEq, Repr

/-- Whatever has properties and a script. -/
inductive Entity where
  | stack (s : Stack)
  | background (b : Background)
  | card (c : Card)
  | part (p : Part)
  deriving DecidableEq

namespace Entity

/-- The identifier of an entity. -/
def id : Entity → Text
  | stack s => s.id
  | background b => b.id
  | card c => c.id
  | part p => p.id

/-- The script of an entity. -/
def script : Entity → Text
  | stack s => s.script
  | background b => b.script
  | card c => c.script
  | part p => p.script

/-- Whether an entity is an object on a card or background. -/
def isPart : Entity → Bool
  | part _ => true
  | _ => false

/-- The word for the kind of an entity. -/
def kindName : Entity → Text
  | stack _ => "stack"
  | background _ => "background"
  | card _ => "card"
  | part p => p.kind.name

end Entity

/-- Whether two cards agree in everything, stored numbers compared as numbers. -/
def Card.same (c d : Card) : Bool :=
  c.id == d.id && c.name == d.name && c.backgroundId == d.backgroundId && c.script == d.script
    && c.backgroundColor == d.backgroundColor && c.parts.length == d.parts.length
    && (c.parts.zip d.parts).all fun r => r.1.same r.2

/-- Whether a card answers to a name: its own in any case, or its identifier. -/
def Card.answersTo (c : Card) (name : Text) : Bool :=
  Text.lower c.name == Text.lower name || c.id == name

/-- Whether a background answers to a name: its own in any case, or its identifier. -/
def Background.answersTo (b : Background) (name : Text) : Bool :=
  Text.lower b.name == Text.lower name || b.id == name

/-- The objects of a background, the one at position `i`, with their places. -/
def Background.placed (b : Background) (i : Nat) : List (Place × Part) :=
  b.parts.mapIdx fun k p => (.backgroundPart i k, p)

/-- The objects of a card, the one at position `i`, with their places. -/
def Card.placed (c : Card) (i : Nat) : List (Place × Part) :=
  c.parts.mapIdx fun k p => (.cardPart i k, p)

namespace Scene

/-! ### Entities by place -/

/-- The entity at a place. -/
def entity? (s : Scene) : Place → Option Entity
  | .stack => some (.stack s.stack)
  | .background i => s.backgrounds[i]?.map .background
  | .card i => s.cards[i]?.map .card
  | .backgroundPart i k => s.backgrounds[i]?.bind fun b => b.parts[k]?.map .part
  | .cardPart i k => s.cards[i]?.bind fun c => c.parts[k]?.map .part

/-- The scene with another entity at a place; nothing changes where the entity does not
belong or the place is not there. -/
def replace (s : Scene) (place : Place) (e : Entity) : Scene :=
  match place, e with
  | .stack, .stack stack => { s with stack }
  | .background i, .background b => { s with backgrounds := s.backgrounds.set i b }
  | .card i, .card c => { s with cards := s.cards.set i c }
  | .backgroundPart i k, .part p =>
    { s with backgrounds := s.backgrounds.modify i fun b => { b with parts := b.parts.set k p } }
  | .cardPart i k, .part p =>
    { s with cards := s.cards.modify i fun c => { c with parts := c.parts.set k p } }
  | _, _ => s

/-! ### The current card -/

/-- The card at a position. -/
def cardAt (s : Scene) (i : Nat) : Except Fault Card :=
  match s.cards[i]? with
  | some c => .ok c
  | none => .error .noCurrentCard

/-- The current card. -/
def currentCard (s : Scene) : Except Fault Card := s.cardAt s.current

/-- The position of a background. -/
def backgroundIndex? (s : Scene) (id : Text) : Option Nat :=
  s.backgrounds.findIdx? fun b => b.id == id

/-- The background of a card with its position; a card may name one that is not there. -/
def backgroundOf (s : Scene) (c : Card) : Option (Nat × Background) := do
  let i ← s.backgroundIndex? c.backgroundId
  return (i, ← s.backgrounds[i]?)

/-- The background of the current card. -/
def currentBackground (s : Scene) : Except Fault (Option (Nat × Background)) := do
  return s.backgroundOf (← s.currentCard)

/-- The objects seen on the card at a position: those of its background, then its own. -/
def placedOn (s : Scene) (i : Nat) : Except Fault (List (Place × Part)) := do
  let c ← s.cardAt i
  let below := match s.backgroundOf c with
    | some (k, b) => b.placed k
    | none => []
  return below ++ c.placed i

/-- The objects seen on the card at a position, without their places. -/
def partsOn (s : Scene) (i : Nat) : Except Fault (List Part) := do
  return (← s.placedOn i).map Prod.snd

/-! ### Finding entities

Names are looked for on the current card before its background.
-/

/-- The objects of the current card and then those of its background. -/
def nearest (s : Scene) : Except Fault (List (Place × Part)) := do
  let c ← s.currentCard
  let below := match s.backgroundOf c with
    | some (k, b) => b.placed k
    | none => []
  return c.placed s.current ++ below

/-- The entity on the current card, or the card, its background or the stack itself, with
an identifier. -/
def findById (s : Scene) (id : Option Text) : Except Fault (Option Place) :=
  match id with
  | none | some [] => .ok none
  | some id => do
    let parts ← s.nearest
    match parts.find? fun r => r.2.id == id with
    | some r => return some r.1
    | none =>
      let c ← s.currentCard
      if c.id == id then return some (.card s.current)
      match s.backgroundOf c with
      | some (k, b) =>
        if b.id == id then return some (.background k)
        else return if s.stack.id == id then some .stack else none
      | none => return if s.stack.id == id then some .stack else none

/-- The object on the current card with a name, of a kind if one is asked for. -/
def findByName (s : Scene) (name : Text) (kind : Option Part.Kind) :
    Except Fault (Option Place) := do
  let parts ← s.nearest
  return (parts.find? fun r => kind.all (· == r.2.kind) && r.2.isNamed name).map Prod.fst

/-- The position of the first card that answers to a name. -/
def findCard? (s : Scene) (name : Text) : Option Nat :=
  s.cards.findIdx? fun c => c.answersTo name

/-- The position of the first background that answers to a name. -/
def findBackground? (s : Scene) (name : Text) : Option Nat :=
  s.backgrounds.findIdx? fun b => b.answersTo name

/-! ### Visual effects -/

/-- The pending transition and animations, and the scene without them. -/
def takeEffects (s : Scene) : (Option Text × Table Text) × Scene :=
  ((s.transition, s.animations), { s with transition := none, animations := [] })

end Scene

end CardTalk
