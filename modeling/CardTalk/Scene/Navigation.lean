/-
Moving between cards, adding cards and deleting them.

A destination is a card's number, counted from one, one of a few words such as `next`, or
a card's name or identifier.  Going somewhere leaves the position of the card left behind
in the history, and going back takes it out again.  Adding and deleting cards shifts the
positions in the history along with the cards.
-/
import CardTalk.Scene.Basic
import CardTalk.Scene.Identifier

namespace CardTalk.Scene

/-- The position of the card with a number, counted from one; `asked` is how the number
was given. -/
def numbered (s : Scene) (asked : Text) (n : Int) : Except Fault Nat :=
  if n < 1 ∨ n > s.cards.length then .error (.cardOutOfRange asked s.cards.length)
  else .ok (n - 1).toNat

/-- The position of the first card with a name, or with an identifier, blanks at the ends
of what is asked for aside. -/
def named (s : Scene) (asked : Text) : Except Fault Nat :=
  let spec := Text.trim asked
  let found := s.cards.findIdx? fun c => Text.lower c.name == Text.lower spec || c.id == spec
  match found with
  | some i => .ok i
  | none => .error (.noSuchCard asked)

/-- The words for destinations relative to the current card or the ends of the stack. -/
inductive Keyword where
  | next | previous | first | last | back
  deriving DecidableEq, Repr

/-- The keyword that a trimmed word in lower case is. -/
def Keyword.ofWord? (word : Text) : Option Keyword :=
  List.lookup word [
    (("back" : Text), Keyword.back), ("next", .next), ("prev", .previous),
    ("previous", .previous), ("first", .first), ("last", .last)]

/-- The keyword that a text is, in any case and with blanks around it. -/
def Keyword.of? (t : Text) : Option Keyword := Keyword.ofWord? (Text.lower (Text.trim t))

/-- The position a keyword stands for. -/
def byKeyword (s : Scene) : Keyword → Except Fault Nat
  | .back =>
    match s.history with
    | [] => .error .noHistory
    | i :: _ => .ok i
  | .next => if s.current + 1 ≥ s.cards.length then .error .atLastCard else .ok (s.current + 1)
  | .previous => if s.current = 0 then .error .atFirstCard else .ok (s.current - 1)
  | .first => .ok 0
  | .last => .ok (s.cards.length - 1)

/-- The number that a text asks for: it starts, after blanks, with a digit or a minus. -/
def askedNumber? (t : Text) : Except Fault (Option Int) :=
  match Text.trimStart t with
  | c :: _ => if Text.isDigit c || c == '-' then Number.leadingInt? t else .ok none
  | [] => .ok none

/-- The position of the card that a destination means. -/
def resolve (s : Scene) (destination : Value) : Except Fault Nat :=
  match destination with
  | .int n => s.numbered (Text.ofInt n) n
  | .logical b => s.numbered destination.shown (if b then 1 else 0)
  | .null | .float _ => .error (.notText destination.typeName)
  | .text t => do
    match ← askedNumber? t with
    | some n => s.numbered (Text.ofInt n) n
    | none =>
      match Keyword.of? t with
      | some k => s.byKeyword k
      | none => s.named t

/-- Whether a destination is the word `back`. -/
def isBack : Value → Bool
  | .text t => Keyword.of? t == some .back
  | _ => false

/-- The scene after going to a position.  Going back takes the latest entry out of the
history; any other move from one card to another puts the card left behind into it. -/
def moveTo (s : Scene) (i : Nat) (back : Bool) : Scene :=
  let history := if back then s.history.tail else s.history
  let s := { s with edits := .moved i back :: s.edits }
  if i = s.current then { s with history }
  else { s with current := i, history := if back then history else s.current :: history }

/-- Hands out an identifier. -/
def issueId (s : Scene) (word : Text) : Text × Scene :=
  (Identifier.make word (s.issued + 1), { s with issued := s.issued + 1 })

/-- The scene with a new card after the current one, which becomes the current one.  A
card without a name is named by its number. -/
def addCard (s : Scene) (name : Option Text) : Except Fault Scene := do
  let below ← s.currentCard
  let (id, s) := s.issueId "card"
  let card : Card :=
    { id
      name := match name with
        | none | some [] => ("Card " : Text) ++ Text.ofNat (s.cards.length + 1)
        | some name => name
      backgroundId := below.backgroundId
      script := []
      backgroundColor := none
      parts := [] }
  let position := s.current + 1
  let s := { s with
    cards := s.cards.take position ++ card :: s.cards.drop position
    history := s.history.map fun i => if i ≥ position then i + 1 else i
    edits := .added position :: s.edits }
  return s.moveTo position false

/-- The scene without its current card, unless it is the only one. -/
def deleteCard (s : Scene) : Except Fault (Option Scene) :=
  if s.cards.length ≤ 1 then .ok none
  else
    match s.cards[s.current]? with
    | none => .error .noCardToDelete
    | some card =>
      let gone := s.current
      let cards := s.cards.eraseIdx gone
      let history := (s.history.filter (· != gone)).map fun i => if i > gone then i - 1 else i
      .ok (some { s with
        cards, history
        current := min gone (cards.length - 1)
        edits := .removed gone card :: s.edits })

end CardTalk.Scene
